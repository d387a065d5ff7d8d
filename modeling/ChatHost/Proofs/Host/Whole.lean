import ChatHost.Proofs.Host.Start

set_option autoImplicit false

/-!
What whole operations do to the books of a host, when no other operation goes on beside them: one
that neither starts nor closes a session leaves them as they are.
-/

namespace ChatHost

theorem Tool.closed_visitAll {σ : Type} {p : (α : Type) → Act σ α → Prop} (hp : Act.Closed p)
    {t : Transport σ} (hvisit : ∀ tools text, p _ (visit t tools text)) (tools : Tools)
    (texts : List Text.Letters) : p _ (visitAll t tools texts) := by
  induction texts generalizing tools with
  | nil => exact hp.pure _
  | cons text texts ih => exact hp.bind (hvisit tools text) fun tools => ih tools

namespace Books

/-- A lease that is taken and given back leaves nothing behind while the provider is not closed. -/
theorem release_acquire {b : Books} {n : Nat} (h : (b.leases n).closed = false) :
    (b.acquire n).release n = b := by
  have hback : ((b.acquire n).leases n).release = b.leases n := by
    change (Function.update b.leases n (b.leases n).acquire n).release = b.leases n
    rw [Function.update_self]
    rfl
  have hdue : ¬ (b.leases n).isDue := by simp [Lease.isDue, h]
  rw [release, hback, if_neg hdue]
  simp [acquire, setLease]

/-- What a start comes to and leaves: no provider has been made, or the one that was is shut down
again, or it stands under the next handle. -/
inductive Started (b : Books) : Except (Failure HostError) Handle → Books → Prop
  | refused (e : Failure HostError) : Started b (.error e) b
  | failed (e : Failure HostError) : Started b (.error e) (b.make.shutdown b.made)
  | bound : Started b (.ok (b.next : Handle)) (b.make.bind b.made)

end Books

namespace Host

variable {σ α : Type} {env : Surroundings σ}

/-- Whether a step leaves the books as they are as long as no provider is closed. -/
def Keeps (a : Act (Host (Noted Event σ)) α) : Prop :=
  ∀ h, (∀ n, (h.leaseOf n).closed = false) → (a.run h).world.books = h.books

theorem Keeps.of_preserves {a : Act (Host (Noted Event σ)) α} (h : a.Preserves Host.books) :
    Keeps a :=
  fun v _ => h v

theorem closed_keeps : Act.Closed fun α (a : Act (Host (Noted Event σ)) α) => Keeps a where
  pure x := .of_preserves (Act.preserves_pure x)
  write records := .of_preserves (Act.preserves_write records)
  bind ha hf := by
    intro h hopen
    have hbooks := ha h hopen
    have hopen' := congrArg Books.leases hbooks
    exact (hf _ _ fun n => (congrArg Lease.closed (congrFun hopen' n)).trans (hopen n)).trans hbooks

theorem keeps_prompt (k : Handle) (text : Input) : Keeps (σ := σ) (prompt k text) :=
  .of_preserves (closed_prompt (Act.closed_preserves _) (onSession_books k) text)

theorem keeps_setOptions (k : Handle) (input : OptionsInput) :
    Keeps (setOptions env.noted k input) := by
  have hclosed := Act.closed_preserves (Host.books (σ := σ))
  refine .of_preserves (.andThen (closed_beginConfigure hclosed (onSession_books k) input) ?_)
  intro options
  split
  · refine .bind ?_ fun tools =>
      closed_endConfigure hclosed (onSession_books k) preserves_today options tools
    refine preserves_within (Tool.closed_visitAll (Act.closed_preserves _)
      (fun tools text => ?_) _ _)
    exact Tool.closed_visit (Act.closed_preserves _)
      (fun endpoint _ => preserves_transport endpoint) tools
  · exact closed_applyOptions hclosed (onSession_books k) preserves_today options none

theorem preserves_completeRound (r : Round) :
    (completeRound env.noted r).Preserves Host.books := by
  have hclosed := Act.closed_preserves (Host.books (σ := σ))
  refine .andThen (closed_firstReply hclosed (onSession_books r.handle) (preserves_answer _ _))
    fun reply => ?_
  split
  · refine (preserves_callFromReply r reply).andThen ?_
    rintro (_ | request)
    · exact Act.preserves_pure _
    · exact closed_secondReply hclosed (onSession_books r.handle) (preserves_answer _ _)
  · exact Act.preserves_pure _

theorem keeps_readResponse (k : Handle) : Keeps (readResponse env.noted k) := by
  intro h hopen
  refine (beginRound_turn k h).andThen (q := fun _ v => v.books = h.books) ?_ fun e v hv => hv
  rintro r v ⟨-, hv⟩
  refine ((preserves_completeRound r).ends v).bind fun result u hu => ?_
  refine (books_endRound r.provider result u).trans ?_
  rw [hu, hv]
  exact Books.release_acquire (hopen r.provider)

theorem books_after (h : Host (Noted Event σ)) (asked : List Event) (w : σ) :
    (h.after asked w).books = { h.books with
      shutdowns := fun n => h.world.shutdowns n + asked.countP (·.isShutdown n) } :=
  congrArg (fun d => { h.books with shutdowns := d })
    (funext fun n => shutdowns_append w h.world.notes asked n)

/-- A provider that cannot be started is shut down, where its start comes to no fault, and any other
one is put under a handle, where there is one left. -/
theorem endStart_books (s : Starting) (h : Host (Noted Event σ))
    (hstart : ∀ v f, (((env.provider s.provider).start env.config).run v).result ≠
      .error (.fault f)) (hnext : h.registry.next ≤ Registry.lastHandle) :
    (endStart env.noted s).Ends h fun r v =>
      match r with
      | .error _ => v.books = h.books.shutdown s.provider
      | .ok k => k = (h.registry.next : Handle) ∧ v.books = h.books.bind s.provider := by
  refine (bringUp_ends env s.provider h).bind fun r v hv => ?_
  dsimp only at hv
  split at hv
  · obtain ⟨rfl, rfl⟩ := hv
    have hbooks : (h.after [.provider s.provider (.start env.config)]
        (((env.provider s.provider).start env.config).run h.world.world).world).books = h.books :=
      books_after ..
    refine (register_ends _ _).andThen ?_ ?_
    · rintro k u ⟨rfl, hk⟩
      refine ⟨Except.ok.inj (hk.trans (if_pos hnext)), ?_⟩
      rw [← hbooks]
      exact books_insert _ _
    · rintro e u ⟨-, he⟩
      cases he.trans (if_pos hnext)
  · rename_i f hfault
    exact absurd hfault (hstart _ f)
  · obtain ⟨rfl, hr⟩ := hv
    have hbooks (w : σ) : (h.after [.provider s.provider (.start env.config),
        .provider s.provider .shutdown] w).books = h.books.shutdown s.provider := by
      rw [books_after]
      refine congrArg (fun d => { h.books with shutdowns := d }) (funext fun n => ?_)
      by_cases hn : n = s.provider
      · subst hn
        simp [Event.isShutdown, books]
      · simp [Event.isShutdown, Ne.symm hn, Function.update_of_ne hn, books]
    split at hr
    · subst hr
      exact hbooks _
    · subst hr
      exact hbooks _

theorem setModel_books (model : Input) {check : Option (UrlCheck (Noted Event σ))}
    (hcheck : ∀ c, check = some c → ∀ parts, (c parts).Preserves Noted.shutdowns)
    (h : Host (Noted Event σ))
    (hstart : ∀ v f, (((env.provider h.made).start env.config).run v).result ≠ .error (.fault f))
    (hnext : h.registry.next ≤ Registry.lastHandle) :
    (setModel env.noted model check).Ends h fun r v => h.books.Started r v.books := by
  refine (beginStart_books model hcheck h).andThen ?_ fun e v hv => hv ▸ .refused e
  rintro ⟨name, n⟩ v ⟨hn, hv⟩
  obtain rfl : n = h.made := hn
  have hnext' : v.registry.next = h.registry.next := congrArg Books.next hv
  refine (endStart_books ⟨name, h.made⟩ v hstart (hnext' ▸ hnext)).imp ?_
  rintro (e | k) u hu
  · rw [hu, hv]
    exact .failed e
  · rw [hu.1, hnext', hu.2, hv]
    exact .bound

theorem close_books (k : Handle) (h : Host (Noted Event σ)) {n : Nat}
    (hn : h.books.bindings k = some n) :
    (close env.noted k).Ends h fun _ v => v.books = (h.books.unbind k).close n := by
  have hbegin : (beginClose k).Ends h fun r v => r = some n ∧ v.books = h.books.unbind k := by
    have hturn := beginClose_turn k h
    have hresult : ((beginClose k).run h).result = some n := (beginClose_ends k h).1.trans hn
    unfold Act.Ends at hturn
    rw [hresult] at hturn
    exact ⟨hresult, hturn.2⟩
  refine hbegin.bind ?_
  rintro r v ⟨rfl, hv⟩
  refine (books_endClose k n v).trans ?_
  rw [hv]

end Host

end ChatHost
