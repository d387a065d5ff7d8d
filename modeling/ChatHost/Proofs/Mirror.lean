import ChatHost.Proofs.Noted

set_option autoImplicit false

/-!
Steps in a world in which notes are taken that are steps of the world behind, but for the notes.
-/

namespace ChatHost.Noted

variable {ε σ α β δ : Type}

/-- Whether a step is another one, but for the notes that it takes. -/
def Mirrors (a : Act (Noted ε σ) α) (b : Act σ α) : Prop :=
  ∀ n, ∃ notes, a.run n =
    ⟨(b.run n.world).result, ⟨(b.run n.world).world, notes⟩, (b.run n.world).records⟩

theorem mirrors_pure (x : α) : Mirrors (pure x : Act (Noted ε σ) α) (pure x) :=
  fun n => ⟨n.notes, rfl⟩

theorem mirrors_log (level : Level) (logger message : String) :
    Mirrors (Act.log level logger message : Act (Noted ε σ) Unit)
      (Act.log level logger message) :=
  fun n => ⟨n.notes, rfl⟩

theorem mirrors_silent (a : Act σ α) : Mirrors (silent a : Act (Noted ε σ) α) a :=
  fun n => ⟨n.notes, rfl⟩

theorem silent_bind (a : Act σ α) (f : α → Act σ β) :
    (silent (a >>= f) : Act (Noted ε σ) β) = silent a >>= fun x => silent (f x) :=
  rfl

theorem Mirrors.bind {a : Act (Noted ε σ) α} {b : Act σ α} {f : α → Act (Noted ε σ) β}
    {g : α → Act σ β} (h : Mirrors a b) (hfg : ∀ x, Mirrors (f x) (g x)) :
    Mirrors (a >>= f) (b >>= g) := by
  intro n
  obtain ⟨notes, hfirst⟩ := h n
  obtain ⟨notes', hsecond⟩ := hfg (b.run n.world).result ⟨(b.run n.world).world, notes⟩
  refine ⟨notes', ?_⟩
  rw [Act.run_bind, hfirst, hsecond, Act.run_bind]

theorem Mirrors.andThen {a : Act (Noted ε σ) (Except δ α)} {b : Act σ (Except δ α)}
    {f : α → Act (Noted ε σ) (Except δ β)} {g : α → Act σ (Except δ β)} (h : Mirrors a b)
    (hfg : ∀ x, Mirrors (f x) (g x)) : Mirrors (a.andThen f) (b.andThen g) := by
  refine h.bind fun result => ?_
  cases result with
  | ok x => exact hfg x
  | error e => exact mirrors_pure _

end ChatHost.Noted
