import ChatHost.Proofs.Host.Adrift

set_option autoImplicit false

/-!
Closing all sessions. The call goes through the handles that are in use when it is made. It passes
over providers that report an error at their shutdown, and is broken off by a shutdown that comes to
a fault: then the sessions that it has not come to stay as they are.
-/

namespace ChatHost

variable {σ : Type}

theorem Retelling.next_le {r r' : Registry Session} {es : List Happening}
    (h : Retelling r r' es) : r.next ≤ r'.next := by
  cases h with
  | kept _ hnext _ => exact Nat.le_of_eq hnext.symm
  | told e s hs => exact Nat.le_refl _
  | opened name provider =>
    rw [Registry.next_insert]
    exact Nat.le_succ _

/-- A handle from which a session has been taken does not come back into use. -/
theorem Retelling.gone {r r' : Registry Session} {es : List Happening} (h : Retelling r r' es)
    {k : Handle} (hk : r.get? k = none) (hlt : k < r.next) : r'.get? k = none := by
  cases h with
  | kept _ hnext hcells => exact (hcells k).elim (·.trans hk) id
  | told e s hs =>
    rw [Registry.get?_store, if_neg, hk]
    rintro rfl
    cases hk.symm.trans hs
  | opened name provider =>
    rw [Registry.get?_insert, if_neg fun h => Int.ne_of_lt hlt h.2, hk]

namespace Host

variable {env : Surroundings σ}

/-- Whether a provider is to be shut down at once when it is closed, and this comes to a fault. -/
def Breaks (env : Surroundings σ) (n : Nat) (h : Host (Noted Event σ)) (f : Fault) : Prop :=
  (h.leaseOf n).closing = .now ∧
    ((env.provider n).shutdown.run h.world.world).result = .error (.fault f)

theorem close_breaks (env : Surroundings σ) (n : Nat) (h : Host (Noted Event σ)) :
    ((leasePlace n).close (shutdown env.noted n)).Ends h fun result _ =>
      ∀ f, result = .error (.fault f) → Breaks env n h f := by
  refine Act.Ends.bind (p := fun l v => l = h.leaseOf n ∧ v = h) ⟨rfl, rfl⟩ ?_
  rintro _ v ⟨rfl, rfl⟩
  refine Act.Ends.bind (p := fun _ (u : Host (Noted Event σ)) => u.world = v.world) rfl ?_
  intro _ u hu
  unfold Breaks
  cases (v.leaseOf n).closing with
  | already => exact nofun
  | deferred count => exact nofun
  | now =>
    have hdown : (shutdown env.noted n).Ends u fun result _ =>
        result = ((env.provider n).shutdown.run v.world.world).result := by
      rw [← hu]
      exact rfl
    refine hdown.bind ?_
    rintro (e | ⟨⟩) _ hresult
    · rintro f ⟨⟩
      exact ⟨rfl, hresult.symm⟩
    · exact nofun

theorem endClose_breaks (env : Surroundings σ) (k : Handle) (n : Nat)
    (h : Host (Noted Event σ)) :
    (endClose env.noted k n).Ends h fun result _ =>
      ∀ f, result = .error (.fault f) → Breaks env n h f := by
  refine (close_breaks env n h).bind ?_
  rintro ((e | f) | stopped) v hv
  · exact nofun
  · rintro _ ⟨⟩
    exact hv f rfl
  · exact nofun

/-- A step that ends the closing of several sessions does so by a fault. -/
theorem tolerate_ends (k : Handle) (result : Except (Failure HostError) Unit) (h : Host σ) :
    (tolerate k result).Ends h fun tolerated v => v.registry = h.registry ∧
      ∀ f, tolerated = .error f → result = .error (.fault f) := by
  refine ⟨keeps_tolerate k result h, ?_⟩
  rcases result with (e | f) | ⟨⟩
  · exact nofun
  · rintro _ ⟨⟩
    rfl
  · exact nofun

end Host

namespace Operation

variable {env : Surroundings σ}

/-- The next step of closing several sessions closes one provider. When this comes to a fault the
call ends; otherwise the next session is taken up. -/
theorem resume_closingEach (env : Surroundings σ) (k : Handle) (n : Nat) (left : List Handle)
    (h : Host (Noted Host.Event σ)) :
    (resume env.noted (.closingEach k n left)).Ends h fun q v =>
      (∃ f, q = .ended (.error (.fault f)) ∧ v.registry = h.registry ∧ Host.Breaks env n h f) ∨
      ∃ u, u.registry = h.registry ∧ Taken left u q v := by
  have hclose : (Host.endClose env.noted k n).Ends h fun result v => v.registry = h.registry ∧
      ∀ f, result = .error (.fault f) → Host.Breaks env n h f :=
    ⟨Host.keeps_endClose k n h, Host.endClose_breaks env k n h⟩
  refine hclose.bind ?_
  rintro result v ⟨hv, hfault⟩
  refine (Host.tolerate_ends k result v).bind ?_
  rintro (f | ⟨⟩) u ⟨hu, htolerated⟩
  · exact .inl ⟨f, rfl, hu.trans hv, hfault f (htolerated f rfl)⟩
  · exact .inr ⟨u, hu.trans hv, closeNext_ends left u⟩

end Operation

namespace Traffic

/-- Whether a session has been taken from under a handle and its provider has been told to close: it
is closed, and shut down once no round on the handle is under way, or there is a call that is to
close it. -/
def Told (t : Traffic (Noted Host.Event σ)) (k : Handle) (n : Nat) : Prop :=
  t.host.registry.get? k = none ∧
    ((t.host.leaseOf n).closed = true ∧ t.shutdowns n = (if t.rounds k = 0 then 1 else 0) ∨
      ∃ c ∈ t.calls, c.isClosing k = true)

theorem Booked.told {phase : Nat → Phase} {t : Traffic (Noted Host.Event σ)} (h : Booked phase t)
    {k : Handle} {n : Nat} (hk : (phase n).handle? = some k)
    (hnone : t.host.registry.get? k = none) : t.Told k n := by
  refine ⟨hnone, ?_⟩
  have hrounds := h.rounds hk
  have hfit := h.fits n
  cases hp : phase n with
  | unmade | starting | given => simp [hp, Phase.handle?] at hk
  | bound j =>
    obtain rfl : j = k := by simpa [hp, Phase.handle?] using hk
    have hbinding := (h.bindings j n).2 hp
    simp [Host.books, hnone] at hbinding
  | closing j =>
    obtain rfl : j = k := by simpa [hp, Phase.handle?] using hk
    exact .inr (h.exists_closing hp)
  | closed j =>
    rw [hp] at hfit
    have hlease : t.host.leaseOf n = _ := congrArg Standing.lease hfit
    have hdown : t.shutdowns n = _ := congrArg Standing.shutdowns hfit
    rw [hlease, hdown, hrounds]
    exact .inl ⟨rfl, rfl⟩

variable {k : Handle} {number : Nat}

theorem step_retelling (env : Surroundings σ) (t : Traffic σ) (m : Move σ) :
    ∃ es, Retelling t.host.registry (t.step env m).host.registry es := by
  cases m with
  | ask op => exact ⟨_, op.start_retelling env 0 t.host⟩
  | resume i =>
    rcases step_resume_cases env t i with hsame | ⟨op, p, hc⟩
    · rw [hsame]
      exact ⟨_, .same rfl⟩
    · rw [step_resume_waits hc]
      exact ⟨_, Operation.resume_retelling env p 0 t.host⟩
  | outside change => exact ⟨_, .same rfl⟩

theorem lt_next_step {t : Traffic σ} (env : Surroundings σ) (m : Move σ)
    (hlt : k < t.host.registry.next) : k < (t.step env m).host.registry.next := by
  obtain ⟨es, h⟩ := step_retelling env t m
  exact Int.lt_of_lt_of_le hlt (Int.ofNat_le.2 h.next_le)

theorem gone_run {t : Traffic σ} (env : Surroundings σ) (moves : List (Move σ))
    (hk : t.host.registry.get? k = none) (hlt : k < t.host.registry.next) :
    (t.run env moves).host.registry.get? k = none := by
  induction moves generalizing t with
  | nil => exact hk
  | cons m moves ih =>
    obtain ⟨es, h⟩ := step_retelling env t m
    exact ih (h.gone hk hlt) (lt_next_step env m hlt)

variable {env : Surroundings σ} {t : Traffic (Noted Host.Event σ)}
  {op : Operation (Noted Host.Event σ)} {moves : List (Move σ)}
  {result : Except (Failure HostError) Operation.Answer}

/-- What the next step of a call comes to, and the host after it. -/
theorem resume_ends {p : Operation.Pending}
    {post : Operation.Progress → Host (Noted Host.Event σ) → Prop}
    (hc : t.calls[number]? = some ⟨op, .waits p⟩)
    (h : (Operation.resume env.noted p).Ends t.host post) :
    ∃ q v, (t.step env.noted (Move.resume number).noted).calls[number]? = some ⟨op, q⟩ ∧
      (t.step env.noted (Move.resume number).noted).host = v ∧ post q v := by
  rw [Move.noted, step_resume_waits hc]
  exact ⟨_, _, List.getElem?_set_self (List.getElem?_eq_some_iff.1 hc).1, rfl, h⟩

/-- When a call has ended, a session that no other call does anything to stays as it is. -/
theorem Undisturbed.kept (h : Undisturbed env k number t moves)
    (hc : t.calls[number]? = some ⟨op, .ended result⟩) :
    (t.run env.noted (moves.map Move.noted)).host.registry.get? k = t.host.registry.get? k := by
  induction moves generalizing t with
  | nil => rfl
  | cons m moves ih =>
    have hlater := ih h.2 (step_of_ended hc m.noted)
    refine hlater.trans ?_
    cases hm : m.resumes number with
    | false => exact h.1 hm
    | true =>
      obtain rfl := Move.resumes_iff.1 hm
      rw [Move.noted, step_resume_ended hc]

/-- What it comes to in some moves that a call closes the sessions under some handles: all of them
are gone in the end, or the call has been broken off. -/
inductive Swept (env : Surroundings σ) (number : Nat) (ks : List Handle)
    (t : Traffic (Noted Host.Event σ)) (moves : List (Move σ)) :
    Except (Failure HostError) Operation.Answer → Prop
  | clean (hks : ∀ k ∈ ks,
      (t.run env.noted (moves.map Move.noted)).host.registry.get? k = none) :
      Swept env number ks t moves (.ok .done)
  | broken (passed : List Handle) (k : Handle) (left : List Handle) (n : Nat) (f : Fault)
      (between later : List (Move σ)) (op : Operation (Noted Host.Event σ))
      (hks : ks = passed ++ k :: left) (hmoves : moves = between ++ .resume number :: later)
      (hcall : (t.run env.noted (between.map Move.noted)).calls[number]? =
        some ⟨op, .waits (.closingEach k n left)⟩)
      (hbreaks : Host.Breaks env n (t.run env.noted (between.map Move.noted)).host f)
      (hpassed : ∀ j ∈ passed ++ [k],
        (t.run env.noted (moves.map Move.noted)).host.registry.get? j = none)
      (hothers : ∀ j ∉ passed ++ [k], Undisturbed env j number t moves →
        (t.run env.noted (moves.map Move.noted)).host.registry.get? j =
          t.host.registry.get? j) :
      Swept env number ks t moves (.error (.fault f))

/-- The first of some handles has been passed by the time the closing is broken off. -/
theorem head_mem_of_split {k j : Handle} {left passed left' : List Handle}
    (h : k :: left = passed ++ j :: left') : k ∈ passed ++ [j] := by
  cases passed with
  | nil => exact List.mem_singleton.2 (List.cons.inj h).1
  | cons => exact List.mem_cons.2 (.inl (List.cons.inj h).1)

/-- The same one move earlier, at which some handles more were in use. -/
theorem Swept.cons {m : Move σ} {front left : List Handle}
    (h : Swept env number (k :: left) (t.step env.noted m.noted) moves result)
    (hfront : ∀ j ∈ front, (t.run env.noted ((m :: moves).map Move.noted)).host.registry.get? j =
      none)
    (hstep : ∀ j, j ∉ front → j ≠ k → (m.resumes number = false →
        (t.step env.noted m.noted).host.registry.get? j = t.host.registry.get? j) →
      (t.step env.noted m.noted).host.registry.get? j = t.host.registry.get? j) :
    Swept env number (front ++ k :: left) t (m :: moves) result := by
  cases h with
  | clean hks =>
    exact .clean fun j hj => (List.mem_append.1 hj).elim (hfront j) (hks j)
  | broken passed k' left' n f between later op hks hmoves hcall hbreaks hpassed hothers =>
    refine .broken (front ++ passed) k' left' n f (m :: between) later op ?_ ?_ hcall hbreaks ?_ ?_
    · rw [hks, List.append_assoc]
    · rw [hmoves]
      rfl
    · intro j hj
      rw [List.append_assoc] at hj
      exact (List.mem_append.1 hj).elim (hfront j) (hpassed j)
    · intro j hj hundisturbed
      rw [List.append_assoc, List.mem_append, not_or] at hj
      refine (hothers j hj.2 hundisturbed.2).trans (hstep j hj.1 ?_ hundisturbed.1)
      rintro rfl
      exact hj.2 (head_mem_of_split hks)

theorem swept_of_waits {n : Nat} {left : List Handle}
    (hc : t.calls[number]? = some ⟨op, .waits (.closingEach k n left)⟩)
    (hk : t.host.registry.get? k = none) (hlt : ∀ j ∈ k :: left, j < t.host.registry.next)
    (moves : List (Move σ))
    (hend : (t.run env.noted (moves.map Move.noted)).calls[number]? =
      some ⟨op, .ended result⟩) : Swept env number (k :: left) t moves result := by
  induction moves generalizing t k n left with
  | nil => cases hc.symm.trans hend
  | cons m moves ih =>
    have hlen : number < t.calls.length := (List.getElem?_eq_some_iff.1 hc).1
    have hlt' : ∀ j ∈ k :: left, j < (t.step env.noted m.noted).host.registry.next := fun j hj =>
      lt_next_step env.noted m.noted (hlt j hj)
    have hgone := gone_run env.noted ((m :: moves).map Move.noted) hk (hlt k List.mem_cons_self)
    have hlater : ∀ j ∈ left, (t.step env.noted m.noted).host.registry.get? j = none →
        (t.run env.noted ((m :: moves).map Move.noted)).host.registry.get? j = none :=
      fun j hj hnone => gone_run env.noted (moves.map Move.noted) hnone
        (hlt' j (List.mem_cons_of_mem k hj))
    cases hm : m.resumes number with
    | false =>
      obtain ⟨es, htelling⟩ := step_retelling env.noted t m.noted
      have hswept := ih ((calls_of_other hm hlen).trans hc)
        (htelling.gone hk (hlt k List.mem_cons_self)) hlt' hend
      show Swept env number ([] ++ k :: left) t (m :: moves) result
      exact hswept.cons nofun fun _ _ _ h => h hm
    | true =>
      obtain rfl := Move.resumes_iff.1 hm
      obtain ⟨q, v, hcalls, hv, ⟨f, rfl, hregistry, hbreaks⟩ | ⟨u, hu, htaken⟩⟩ :=
        resume_ends hc (Operation.resume_closingEach env k n left t.host)
      · cases (run_of_ended env.noted hcalls (moves.map Move.noted)).symm.trans hend
        refine .broken [] k left n f [] moves op rfl rfl hc hbreaks ?_ fun j _ h => ?_
        · exact fun j hj => List.mem_singleton.1 hj ▸ hgone
        · rw [← hregistry, ← hv]
          exact h.2.kept hcalls
      · cases htaken with
        | none hks =>
          cases (run_of_ended env.noted hcalls (moves.map Move.noted)).symm.trans hend
          exact .clean (List.forall_mem_cons.2 ⟨hgone, fun j hj => hlater j hj (hv ▸ hks j hj)⟩)
        | one before k' left' s hks hbefore hs =>
          have hcells (j : Handle) :
              (t.step env.noted (Move.resume number).noted).host.registry.get? j =
                if j = k' then none else u.registry.get? j := by
            rw [hv]
            exact Registry.get?_remove ..
          have hswept := ih hcalls ((hcells k').trans (if_pos rfl))
            (fun j hj => hlt' j (hks ▸ by simp [hj])) hend
          rw [hks, ← List.cons_append]
          refine hswept.cons (List.forall_mem_cons.2 ⟨hgone, fun j hj => ?_⟩) fun j _ hj _ => ?_
          · refine hlater j (hks ▸ List.mem_append_left _ hj) ((hcells j).trans ?_)
            rw [hbefore j hj, ite_self]
          · rw [hcells, if_neg hj, hu]

/-- A call that closes several sessions has ended after a step of its own for each of them. -/
theorem ended_of_resumed {n : Nat} {left : List Handle}
    (hc : t.calls[number]? = some ⟨op, .waits (.closingEach k n left)⟩) (moves : List (Move σ))
    (hmoves : left.length < moves.countP (Move.resumes number)) :
    ∃ result, (t.run env.noted (moves.map Move.noted)).calls[number]? =
      some ⟨op, .ended result⟩ := by
  induction moves generalizing t k n left with
  | nil => cases hmoves
  | cons m moves ih =>
    have hlen : number < t.calls.length := (List.getElem?_eq_some_iff.1 hc).1
    cases hm : m.resumes number with
    | false =>
      rw [List.countP_cons_of_neg (by simp [hm])] at hmoves
      exact ih ((calls_of_other hm hlen).trans hc) hmoves
    | true =>
      rw [List.countP_cons_of_pos hm] at hmoves
      obtain rfl := Move.resumes_iff.1 hm
      obtain ⟨q, v, hcalls, -, ⟨f, rfl, -⟩ | ⟨u, -, htaken⟩⟩ :=
        resume_ends hc (Operation.resume_closingEach env k n left t.host)
      · exact ⟨_, run_of_ended env.noted hcalls (moves.map Move.noted)⟩
      · cases htaken with
        | none => exact ⟨_, run_of_ended env.noted hcalls (moves.map Move.noted)⟩
        | one before k' left' s hks =>
          refine ih hcalls ?_
          rw [hks, List.length_append, List.length_cons] at hmoves
          omega

/-- When all sessions are to be closed, the call has ended at once where there are none, and else
has taken the first of them. -/
theorem closeAll_asked (env : Surroundings σ) (t : Traffic (Noted Host.Event σ)) :
    let asked := t.step env.noted (Move.ask .closeAll).noted
    (t.host.registry.handles = [] ∧
      asked.calls[t.calls.length]? = some ⟨.closeAll, .ended (.ok .done)⟩) ∨
    ∃ k left, ∃ s : Session, t.host.registry.handles = k :: left ∧
      asked.calls[t.calls.length]? =
        some ⟨.closeAll, .waits (.closingEach k s.provider left)⟩ ∧
      asked.host.registry = (t.host.registry.remove k).2 := by
  intro asked
  have hcalls : asked.calls[t.calls.length]? = some ⟨.closeAll,
      ((Operation.closeAll.start env.noted).run t.host).result⟩ := List.getElem?_concat_length
  have htaken : (Operation.closeAll.start env.noted).Ends t.host
      (Operation.Taken t.host.registry.handles t.host) :=
    Operation.closeNext_ends t.host.registry.handles t.host
  have hpresent : ∀ j ∈ t.host.registry.handles, t.host.registry.get? j ≠ none := fun j hj =>
    Option.isSome_iff_ne_none.1 ((Registry.mem_handles _ j).1 hj)
  have hworld : asked.host = ((Operation.closeAll.start env.noted).run t.host).world := rfl
  unfold Act.Ends at htaken
  rw [← hworld] at htaken
  generalize ((Operation.closeAll.start env.noted).run t.host).result = q at hcalls htaken
  generalize asked.host = v at htaken ⊢
  cases htaken with
  | none hks =>
    refine .inl ⟨List.eq_nil_iff_forall_not_mem.2 fun j hj => hpresent j hj (hks j hj), hcalls⟩
  | one before k left s hks hbefore hs =>
    obtain rfl : before = [] := List.eq_nil_iff_forall_not_mem.2 fun j hj =>
      hpresent j (hks ▸ List.mem_append_left _ hj) (hbefore j hj)
    exact .inr ⟨k, left, s, hks, hcalls, rfl⟩

/-- A provider is shut down at once only when no round on its handle is under way. -/
theorem Booked.rounds_of_breaks {phase : Nat → Phase} (h : Booked phase t) {n : Nat}
    {left : List Handle} (hc : t.calls[number]? = some ⟨op, .waits (.closingEach k n left)⟩)
    {f : Fault} (hbreaks : Host.Breaks env n t.host f) :
    phase n = .closing k ∧ t.rounds k = 0 := by
  have hclosing : phase n = .closing k :=
    h.closers _ (List.mem_map_of_mem (List.mem_of_getElem? hc)) k n rfl
  have hfit := h.fits n
  rw [hclosing] at hfit
  have hlease : t.host.leaseOf n = _ := congrArg Standing.lease hfit
  refine ⟨hclosing, (h.rounds (by rw [hclosing]; rfl)).trans ?_⟩
  have hnow := hbreaks.1
  rw [hlease] at hnow
  simpa [Lease.closing] using hnow

/-- Closing all sessions, however other calls go on meanwhile, ends after a step of its own for each
session that there was. When it ends well, all of these sessions are gone and their providers have
been told to close, also those that report an error at their shutdown. It ends otherwise only by a
fault of a shutdown on a handle with no round under way: then this has become of the sessions up to
this one, and the call does nothing to the others. -/
theorem told_of_closeAll (env : Surroundings σ) (w : σ) (before after : List (Move σ)) :
    let t := observed env w before
    let number := t.calls.length
    let asked := before ++ [.ask .closeAll]
    let t' := observed env w (asked ++ after)
    (t.host.registry.handles.length ≤ after.countP (Move.resumes number) →
      ∃ result, t'.calls[number]? = some ⟨.closeAll, .ended result⟩) ∧
    ∀ result, t'.calls[number]? = some ⟨.closeAll, .ended result⟩ →
      result = .ok .done ∧ (∀ k s, t.host.registry.get? k = some s → t'.Told k s.provider) ∨
      ∃ passed k left s f between later, t.host.registry.handles = passed ++ k :: left ∧
        t.host.registry.get? k = some s ∧ after = between ++ .resume number :: later ∧
        result = .error (.fault f) ∧
        (let u := observed env w (asked ++ between)
        u.rounds k = 0 ∧
          ((env.provider s.provider).shutdown.run u.host.world.world).result =
            .error (.fault f)) ∧
        (∀ j ∈ passed ++ [k], ∀ x, t.host.registry.get? j = some x → t'.Told j x.provider) ∧
        ∀ j ∉ passed ++ [k], Undisturbed env j number (observed env w asked) after →
          t'.host.registry.get? j = t.host.registry.get? j := by
  intro t number asked t'
  have hasked : observed env w asked = t.step env.noted (Move.ask .closeAll).noted :=
    observed_append env w before _
  have ht' : t' = (observed env w asked).run env.noted (after.map Move.noted) :=
    observed_append env w asked after
  have hpresent (j : Handle) (hj : j ∈ t.host.registry.handles) :
      ∃ x, t.host.registry.get? j = some x :=
    Option.isSome_iff_exists.1 ((Registry.mem_handles _ j).1 hj)
  have hlater (moves : List (Move σ)) {j : Handle} {x : Session}
      (hx : t.host.registry.get? j = some x) : ∃ phase,
      Booked phase (observed env w (asked ++ moves)) ∧
        (phase x.provider).handle? = some j := by
    rw [List.append_assoc]
    exact booked_of_registered env w before _ hx
  have htold {j : Handle} {x : Session} (hx : t.host.registry.get? j = some x)
      (hnone : t'.host.registry.get? j = none) : t'.Told j x.provider := by
    obtain ⟨phase, hb, hphase⟩ := hlater after hx
    exact hb.told hphase hnone
  have hstart := closeAll_asked env t
  rw [← hasked] at hstart
  rcases hstart with ⟨hks, hcalls⟩ | ⟨k, left, s, hks, hcalls, hregistry⟩
  · have hend := run_of_ended env.noted hcalls (after.map Move.noted)
    rw [← ht'] at hend
    refine ⟨fun _ => ⟨_, hend⟩, fun result hresult => .inl ?_⟩
    cases hend.symm.trans hresult
    refine ⟨rfl, fun j x hx => ?_⟩
    have hj : j ∈ t.host.registry.handles := (Registry.mem_handles _ j).2 (by rw [hx]; rfl)
    rw [hks] at hj
    cases hj
  have hcells (j : Handle) : (observed env w asked).host.registry.get? j =
      if j = k then none else t.host.registry.get? j := by
    rw [hregistry]
    exact Registry.get?_remove ..
  have hlt : ∀ j ∈ k :: left, j < (observed env w asked).host.registry.next := by
    intro j hj
    obtain ⟨x, hx⟩ := hpresent j (hks ▸ hj)
    rw [hregistry]
    exact lt_next_of_bound env w List.prefix_rfl hx
  constructor
  · intro hcount
    rw [hks] at hcount
    rw [ht']
    exact ended_of_resumed hcalls after hcount
  intro result hend
  have hswept : Swept env number (k :: left) (observed env w asked) after result :=
    swept_of_waits hcalls ((hcells k).trans (if_pos rfl)) hlt after (ht' ▸ hend)
  cases hswept with
  | clean hgone =>
    rw [← ht'] at hgone
    refine .inl ⟨rfl, fun j x hx => htold hx (hgone j ?_)⟩
    exact hks ▸ (Registry.mem_handles _ j).2 (by rw [hx]; rfl)
  | broken passed k' left' n f between later op hpassed hafter hcall hbreaks hgone hothers =>
    rw [← ht'] at hgone hothers
    rw [← observed_append] at hcall hbreaks
    obtain ⟨x, hx⟩ := hpresent k' (by rw [hks, hpassed]; simp)
    obtain ⟨phase, hb, hphase⟩ := hlater between hx
    obtain ⟨hclosing, hrounds⟩ := hb.rounds_of_breaks hcall hbreaks
    obtain rfl : n = x.provider := hb.distinct k' n _ (by rw [hclosing]; rfl) hphase
    refine .inr ⟨passed, k', left', x, f, between, later, hks.trans hpassed, hx, hafter, rfl,
      ⟨hrounds, hbreaks.2⟩, fun j hj y hy => htold hy (hgone j hj), fun j hj h => ?_⟩
    refine (hothers j hj h).trans ((hcells j).trans (if_neg ?_))
    rintro rfl
    exact hj (head_mem_of_split hpassed)

/-- Where the handles in use are in order, closing all sessions takes them as they come. -/
theorem observed_closeAll (env : Surroundings σ) (w : σ) (before after : List (Move σ))
    (ks : List Handle) (hkeys : OrderedMap.keys (observed env w before).host.registry.cells = ks)
    (hks : ks.Pairwise fun j k => decide (j ≤ k)) :
    let t := observed env w before
    let out := (Operation.closeNext ks).run t.host
    t.host.registry.handles = ks ∧ observed env w (before ++ [.ask .closeAll] ++ after) =
      run env.noted ⟨out.world, t.calls ++ [⟨.closeAll, out.result⟩]⟩
        (after.map Move.noted) := by
  intro t out
  have hhandles : t.host.registry.handles = ks := by
    rw [Registry.handles, hkeys]
    exact List.mergeSort_of_pairwise hks
  refine ⟨hhandles, ?_⟩
  rw [List.append_assoc, observed_append]
  simp only [out, ← hhandles]
  rfl

/-- A world in which the first provider fails when it is shut down. -/
def stopFailing (failure : Failure ProviderError) : Scripted.HostWorld where
  scripts := [(0, { shutdownFailure := some failure })]

def startingTwice : List (Move Scripted.HostWorld) :=
  [.ask (.setModel (.text "gemma-2-2b-it") none), .resume 0,
    .ask (.setModel (.text "gemma-2-2b-it") none), .resume 1]

theorem told_of_closeAll_reading :
    let env := Scripted.HostWorld.surroundings .standard {} ⟨2025, 1, 31⟩
    let t' := observed env (stopFailing (.known ⟨.server, "stuck"⟩))
      ((startingTwice ++ [.ask (.readResponse 2)]) ++ [.ask .closeAll] ++ [.resume 3, .resume 3])
    t'.Told 1 0 ∧ t'.Told 2 1 ∧ t'.rounds 2 = 1 ∧ t'.shutdowns 0 = 1 ∧ t'.shutdowns 1 = 0 := by
  intro env t'
  obtain ⟨hhandles, ht'⟩ := observed_closeAll env (stopFailing (.known ⟨.server, "stuck"⟩))
    (startingTwice ++ [.ask (.readResponse 2)]) [.resume 3, .resume 3] [1, 2] (by decide +kernel)
    (by decide)
  have hcounts : t'.calls[3]?.bind Call.failure? = none ∧ t'.rounds 2 = 1 ∧
      t'.shutdowns 0 = 1 ∧ t'.shutdowns 1 = 0 := by
    rw [show t' = _ from ht']
    decide +kernel
  obtain ⟨hended, hends⟩ := told_of_closeAll env (stopFailing (.known ⟨.server, "stuck"⟩))
    (startingTwice ++ [.ask (.readResponse 2)]) [.resume 3, .resume 3]
  obtain ⟨result, hresult⟩ := hended (by rw [hhandles]; decide +kernel)
  have hfirst : ((observed env (stopFailing (.known ⟨.server, "stuck"⟩))
      (startingTwice ++ [.ask (.readResponse 2)])).host.registry.get? 1).map Session.provider =
        some 0 := by
    decide +kernel
  have hsecond : ((observed env (stopFailing (.known ⟨.server, "stuck"⟩))
      (startingTwice ++ [.ask (.readResponse 2)])).host.registry.get? 2).map Session.provider =
        some 1 := by
    decide +kernel
  obtain ⟨x, hx, hn⟩ := Option.map_eq_some_iff.1 hfirst
  obtain ⟨y, hy, hm⟩ := Option.map_eq_some_iff.1 hsecond
  rcases hends result hresult with ⟨-, htold⟩ | ⟨-, -, -, -, f, -, -, -, -, -, rfl, -⟩
  · exact ⟨hn ▸ htold 1 x hx, hm ▸ htold 2 y hy, hcounts.2⟩
  · have hcall : t'.calls[3]? = some ⟨.closeAll, .ended (.error (.fault f))⟩ := hresult
    rw [hcall] at hcounts
    cases hcounts.1

/-- A shutdown that comes to a fault ends the call, and the session that is next stays. -/
theorem left_open_of_fault :
    let env := Scripted.HostWorld.surroundings .standard {} ⟨2025, 1, 31⟩
    let boom : Fault := .outside .runtime "boom"
    let t' := observed env (stopFailing (.fault boom))
      (startingTwice ++ [.ask .closeAll] ++ [.resume 2, .resume 2])
    t'.calls[2]?.bind Call.failure? = some (.fault boom) ∧
      (t'.host.registry.get? 2).isSome ∧ t'.shutdowns 1 = 0 := by
  intro env boom t'
  obtain ⟨-, ht'⟩ := observed_closeAll env (stopFailing (.fault boom)) startingTwice
    [.resume 2, .resume 2] [1, 2] (by decide +kernel) (by decide)
  rw [show t' = _ from ht']
  decide +kernel

end Traffic

end ChatHost
