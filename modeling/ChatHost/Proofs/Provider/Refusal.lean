import ChatHost.Proofs.Act
import ChatHost.Proofs.Model.Written
import ChatHost.Scripted.Machine

set_option autoImplicit false

/-!
How downloads of models end. A download gives its destination or fails with an error of its own,
unless the client comes upon a URL that cannot be one: this is a fault, which goes through the
download and through the provider that needs it.
-/

namespace ChatHost

variable {σ α β : Type}

/-- Whether a request to a URL can fail, at once or later on, since the URL or one to which it leads
cannot be one. -/
def Http.Client.Balks (c : Client σ) (url : String) (f : Failure) : Prop :=
  f.kind = .address ∧ ∃ (r : Request) (w : σ), r.url = url ∧
    (((c.request r).run w).result = .error f ∨
      ∃ response, ((c.request r).run w).result = .ok response ∧ response.body.cut = some f)

namespace Downloader

def addressFault (message : String) : Failure ProviderError :=
  .fault (.outside .address message)

/-- Whether a step ends in a value with a property, in an error of a download, or in the fault of
a failure of the client. -/
def Reports (c : Http.Client σ) (url : String) (a : Act σ (Except (Failure ProviderError) α))
    (p : α → Prop) : Prop :=
  ∀ w, (∃ x, (a.run w).result = .ok x ∧ p x) ∨
    (∃ message, (a.run w).result = failed message) ∨
    ∃ f, c.Balks url f ∧ (a.run w).result = .error (addressFault f.message)

section Reports

variable {c : Http.Client σ} {url : String} {p : α → Prop}

/-- What comes before a step does not matter when the step reports its errors whatever it is
given. -/
theorem Reports.bind {a : Act σ β} {k : β → Act σ (Except (Failure ProviderError) α)}
    (hk : ∀ x, Reports c url (k x) p) : Reports c url (a >>= k) p :=
  fun _ => hk _ _

/-- The same for a step that is given a value or an error. -/
theorem Reports.cases {ε : Type} {a : Act σ (Except ε β)}
    {k : Except ε β → Act σ (Except (Failure ProviderError) α)}
    (herror : ∀ e, Reports c url (k (.error e)) p) (hok : ∀ x, Reports c url (k (.ok x)) p) :
    Reports c url (a >>= k) p := by
  refine Reports.bind fun result => ?_
  cases result with
  | error e => exact herror e
  | ok x => exact hok x

/-- The same for a step that is given what a request comes to. -/
theorem Reports.request {r : Http.Request} (hr : r.url = url)
    {k : Except Http.Failure Http.Response → Act σ (Except (Failure ProviderError) α)}
    (herror : ∀ f, (f.kind = .address → c.Balks url f) → Reports c url (k (.error f)) p)
    (hok : ∀ response, (∀ f, response.body.cut = some f → f.kind = .address → c.Balks url f) →
      Reports c url (k (.ok response)) p) : Reports c url (c.request r >>= k) p := by
  intro w
  rw [Act.result_bind]
  cases hanswer : ((c.request r).run w).result with
  | error f => exact herror f (fun hkind => ⟨hkind, r, w, hr, .inl hanswer⟩) _
  | ok response =>
    exact hok response (fun f hcut hkind => ⟨hkind, r, w, hr, .inr ⟨response, hanswer, hcut⟩⟩) _

/-- A step after one that reports its errors is given a value, or one of these errors. -/
theorem Reports.bindResult {a : Act σ (Except (Failure ProviderError) β)} {q : β → Prop}
    {k : Except (Failure ProviderError) β → Act σ (Except (Failure ProviderError) α)}
    (ha : Reports c url a q) (hok : ∀ x, q x → Reports c url (k (.ok x)) p)
    (herror : ∀ e, k (.error e) = pure (.error e)) : Reports c url (a >>= k) p := by
  intro w
  rw [Act.result_bind]
  rcases ha w with ⟨x, hx, hq⟩ | ⟨message, hfailed⟩ | ⟨f, hf, hfailed⟩
  · rw [hx]
    exact hok x hq _
  · rw [hfailed, failed, herror]
    exact .inr (.inl ⟨message, rfl⟩)
  · rw [hfailed, herror]
    exact .inr (.inr ⟨f, hf, rfl⟩)

theorem Reports.andThen {a : Act σ (Except (Failure ProviderError) β)} {q : β → Prop}
    {k : β → Act σ (Except (Failure ProviderError) α)} (ha : Reports c url a q)
    (hk : ∀ x, q x → Reports c url (k x) p) : Reports c url (a.andThen k) p :=
  ha.bindResult hk fun _ => rfl

end Reports

section steps

variable (d : Downloader σ) (url : String) (part destination : Path)

end steps

end Downloader

def Machine.Downloads {σ : Type} (m : Machine σ) (d : Downloader σ) : Prop :=
  ∀ url p, m.fetch url p = (d.download url p).andThen fun _ => return .ok ()

namespace Llamafile

variable {σ : Type} {l : Llamafile} {m : Machine σ} {d : Downloader σ} {e : Failure ProviderError}

section scripted

open Scripted

end scripted

end Llamafile

end ChatHost
