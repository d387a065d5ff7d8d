import ChatHost.Proofs.Host.Exits
import ChatHost.Proofs.Host.Start

set_option autoImplicit false

/-!
Starts that fail after their provider has been made. A provider that reports an error of its own is
shut down before the caller is told. After any other failure it is not: no handle leads to it, and
nothing that happens later shuts it down.
-/

namespace ChatHost

variable {σ : Type}

/-- Whether a provider has been made and stands under no handle. -/
structure Books.Adrift (n : Nat) (b : Books) : Prop where
  made : n < b.made
  unbound (k : Handle) : b.bindings k ≠ some n

theorem Books.shutdowns_release_of_ne (b : Books) {m n : Nat} (h : m ≠ n) :
    (b.release n).shutdowns m = b.shutdowns m :=
  congrArg Standing.shutdowns (standing_release_of_ne b [] h)

theorem Books.shutdowns_close_of_ne (b : Books) {m n : Nat} (h : m ≠ n) :
    (b.close n).shutdowns m = b.shutdowns m :=
  congrArg Standing.shutdowns (standing_close_of_ne b [] h)

/-- A call that does not have a provider in its hands cannot come by one that stands under no
handle, and does not shut it down. -/
theorem Turn.adrift {n : Nat} {e f : Entry} {b c : Books} (h : Turn e f b c)
    (he : e.stage.provider? ≠ some n) (hb : b.Adrift n) :
    f.stage.provider? ≠ some n ∧ c.Adrift n ∧ c.shutdowns n = b.shutdowns n := by
  have hidle : Stage.idle.provider? ≠ some n := (Option.some_ne_none n).symm
  induction h with
  | idle b => exact ⟨he, hb, rfl⟩
  | make b =>
    have hne : b.made ≠ n := (Nat.ne_of_lt hb.made).symm
    exact ⟨by simpa [Stage.provider?] using hne, ⟨Nat.lt_succ_of_lt hb.made, hb.unbound⟩, rfl⟩
  | drop m b => exact ⟨hidle, hb, rfl⟩
  | fail m b =>
    have hne : n ≠ m := by simpa [Stage.provider?, eq_comm] using he
    exact ⟨hidle, ⟨hb.made, hb.unbound⟩, Function.update_of_ne hne ..⟩
  | bind m b =>
    have hne : m ≠ n := by simpa [Stage.provider?] using he
    refine ⟨hidle, ⟨hb.made, fun k => ?_⟩, rfl⟩
    unfold Books.bind
    dsimp only
    split
    · by_cases hk : k = b.next
      · simpa [hk] using hne
      · simpa [Function.update_of_ne hk] using hb.unbound k
    · exact hb.unbound k
  | acquire k m b hk =>
    have hne : m ≠ n := fun h => hb.unbound k (h ▸ hk)
    exact ⟨by simpa [Stage.provider?] using hne, ⟨hb.made, hb.unbound⟩, rfl⟩
  | goOn k m b => exact ⟨he, hb, rfl⟩
  | release k m b =>
    have hne : n ≠ m := by simpa [Stage.provider?, eq_comm] using he
    obtain ⟨hbindings, -, hmade⟩ := Books.release_frame m b
    exact ⟨hidle, ⟨hmade ▸ hb.made, hbindings ▸ hb.unbound⟩, b.shutdowns_release_of_ne hne⟩
  | unbind k m b hk =>
    have hne : m ≠ n := fun h => hb.unbound k (h ▸ hk)
    refine ⟨by simpa [Stage.provider?] using hne, ⟨hb.made, fun j => ?_⟩, rfl⟩
    by_cases hj : j = k
    · simp [Books.unbind, hj]
    · simpa [Books.unbind, Function.update_of_ne hj] using hb.unbound j
  | close k m b =>
    have hne : n ≠ m := by simpa [Stage.provider?, eq_comm] using he
    obtain ⟨hbindings, -, hmade⟩ := Books.close_frame m b
    exact ⟨hidle, ⟨hmade ▸ hb.made, hbindings ▸ hb.unbound⟩, b.shutdowns_close_of_ne hne⟩
  | trans _ _ ih₁ ih₂ =>
    obtain ⟨hf, hc, hshutdowns₁⟩ := ih₁ he hb
    obtain ⟨hg, hd, hshutdowns₂⟩ := ih₂ hf hc
    exact ⟨hg, hd, hshutdowns₂.trans hshutdowns₁⟩

namespace Host

/-- What starting a provider comes to in the world of a host. -/
def launch (env : Surroundings σ) (n : Nat) (h : Host (Noted Event σ)) :
    Outcome σ (Except (Failure ProviderError) Unit) :=
  ((env.provider n).start env.config).run h.world.world

/-- How a start fails whose provider has been made, and how often the provider is shut down. -/
inductive FailedStart (env : Surroundings σ) (n : Nat) (h : Host (Noted Event σ)) :
    Failure HostError → Nat → Prop
  /-- The provider reports an error. -/
  | refused (cause : ProviderError) (hstart : (launch env n h).result = .error (.known cause))
      (e : HostError) (hkind : e.kind = .modelInitializationFailed) :
      FailedStart env n h (.known e) 1
  /-- The provider reports an error, and then its shutdown comes to a fault. -/
  | disturbed (cause : ProviderError) (hstart : (launch env n h).result = .error (.known cause))
      (f : Fault)
      (hdown : ((env.provider n).shutdown.run (launch env n h).world).result = .error (.fault f)) :
      FailedStart env n h (.fault f) 1
  /-- The start comes to a fault. -/
  | faulted (f : Fault) (hstart : (launch env n h).result = .error (.fault f)) :
      FailedStart env n h (.fault f) 0
  /-- The provider serves, and there is no handle left for the session. -/
  | exhausted (hstart : (launch env n h).result = .ok ())
      (hnext : Registry.lastHandle < h.registry.next) :
      FailedStart env n h (.fault .handlesExhausted) 0

theorem after_shutdowns (h : Host (Noted Event σ)) (asked : List Event) (w : σ) (n : Nat) :
    (h.after asked w).world.shutdowns n =
      h.world.shutdowns n + asked.countP (·.isShutdown n) :=
  shutdowns_append w h.world.notes asked n

/-- The second half of a start, when it fails, leaves all that stands under handles. -/
theorem endStart_failed (env : Surroundings σ) (s : Starting) (h : Host (Noted Event σ)) :
    (endStart env.noted s).Ends h fun r v => ∀ e, r = .error e →
      (∀ k, v.registry.get? k = h.registry.get? k) ∧ v.made = h.made ∧
      ∃ count, FailedStart env s.provider h e count ∧
        v.world.shutdowns s.provider = h.world.shutdowns s.provider + count := by
  refine (bringUp_ends env s.provider h).bind ?_
  intro r v hv
  dsimp only at hv
  have hcount : [Event.provider s.provider (.start env.config)].countP
      (·.isShutdown s.provider) = 0 := rfl
  have hcount' : [Event.provider s.provider (.start env.config),
      .provider s.provider .shutdown].countP (·.isShutdown s.provider) = 1 := by
    simp [Event.isShutdown]
  split at hv
  · rename_i hstart
    obtain ⟨rfl, rfl⟩ := hv
    refine (register_ends _ _).bind ?_
    rintro r u ⟨rfl, rfl⟩
    split_ifs with hlast
    · intro e he
      cases he
    · rintro e he
      cases he
      refine ⟨fun k => ?_, rfl, 0, .exhausted hstart (Nat.lt_of_not_le hlast), ?_⟩
      · exact (Registry.get?_insert ..).trans (if_neg fun hk => hlast hk.1)
      · exact (after_shutdowns h _ _ _).trans (congrArg _ hcount)
  · rename_i f hstart
    obtain ⟨rfl, rfl⟩ := hv
    rintro e he
    cases he
    exact ⟨fun _ => rfl, rfl, 0, .faulted f hstart,
      (after_shutdowns h _ _ _).trans (congrArg _ hcount)⟩
  · rename_i cause hstart
    obtain ⟨rfl, hr⟩ := hv
    have hshutdowns := fun w => (after_shutdowns h _ w s.provider).trans (congrArg _ hcount')
    split at hr
    · rename_i f hdown
      subst hr
      rintro e he
      cases he
      exact ⟨fun _ => rfl, rfl, 1, .disturbed cause hstart f hdown, hshutdowns _⟩
    · subst hr
      rintro e he
      cases he
      exact ⟨fun _ => rfl, rfl, 1, .refused cause hstart _ rfl, hshutdowns _⟩

end Host

theorem Operation.start_setModel_made (env : Surroundings σ) (model : Input)
    (check : Option (UrlCheck σ)) (h : Host (Noted Host.Event σ)) :
    ((Operation.setModel model check).noted.start env.noted).Ends h fun q v => h.made < v.made →
      ∃ name, q = .waits (.starting ⟨name, h.made⟩) := by
  refine Act.Ends.bind (Host.beginStart_turn model check h) fun result v hv hmade => ?_
  rcases result with e | ⟨name, m⟩
  · exact absurd (congrArg Books.made hv) (Nat.ne_of_gt hmade)
  · obtain rfl : m = h.made := hv.1
    exact ⟨name, rfl⟩

def Call.failure? : Call σ → Option (Failure HostError)
  | ⟨_, .ended (.error e)⟩ => some e
  | _ => none

theorem Call.failure?_eq_some {op : Operation σ} {q : Operation.Progress} {e : Failure HostError} :
    Call.failure? ⟨op, q⟩ = some e ↔ q = .ended (.error e) := by
  rcases q with (e' | answer) | p <;> simp [failure?]

namespace Traffic

/-- Whether a provider has been made, stands under no handle, and is in the hands of no call. -/
structure Adrift (n : Nat) (t : Traffic (Noted Host.Event σ)) : Prop where
  books : t.host.books.Adrift n
  calls : ∀ c ∈ t.calls, c.entry.stage.provider? ≠ some n

variable {env : Surroundings σ} {t : Traffic (Noted Host.Event σ)} {n number : Nat}

theorem Adrift.step (h : t.Adrift n) (hb : ∃ phase, Booked phase t) (env : Surroundings σ)
    (m : Move σ) :
    (t.step env.noted m.noted).Adrift n ∧
      (t.step env.noted m.noted).shutdowns n = t.shutdowns n := by
  obtain ⟨phase, hb⟩ := hb
  cases m with
  | ask op =>
    obtain ⟨hentry, hbooks, hshutdowns⟩ :=
      (op.start_turn env t.host).adrift (n := n) nofun h.books
    rw [← op.reader?_noted] at hentry
    refine ⟨⟨hbooks, fun c hc => ?_⟩, hshutdowns⟩
    rcases List.mem_append.1 hc with hc | hc
    · exact h.calls c hc
    · rw [List.mem_singleton.1 hc]
      exact hentry
  | resume i =>
    rcases step_resume_cases env.noted t i with hsame | ⟨op, p, hc⟩
    · rw [Move.noted, hsame]
      exact ⟨h, rfl⟩
    · have hmem := List.mem_of_getElem? hc
      obtain ⟨hentry, hbooks, hshutdowns⟩ :=
        (Operation.resume_turn env p (hb.reader hmem) t.host).adrift (h.calls _ hmem) h.books
      rw [Move.noted, step_resume_waits hc]
      refine ⟨⟨hbooks, fun c hc => ?_⟩, hshutdowns⟩
      rcases List.mem_or_eq_of_mem_set hc with hc | rfl
      · exact h.calls c hc
      · exact hentry
  | outside change => exact ⟨⟨h.books, h.calls⟩, rfl⟩

theorem Adrift.run (h : t.Adrift n) (hb : ∃ phase, Booked phase t) (env : Surroundings σ)
    (moves : List (Move σ)) :
    (t.run env.noted (moves.map Move.noted)).Adrift n ∧
      (t.run env.noted (moves.map Move.noted)).shutdowns n = t.shutdowns n := by
  induction moves generalizing t with
  | nil => exact ⟨h, rfl⟩
  | cons m moves ih =>
    obtain ⟨hstep, hshutdowns⟩ := h.step hb env m
    obtain ⟨hrun, hlater⟩ := ih hstep (booked_next hb m)
    exact ⟨hrun, hlater.trans hshutdowns⟩

/-- While a call is to start a provider, no other call has the provider in its hands. -/
theorem Booked.starting_alone {phase : Nat → Phase} (hb : Booked phase t)
    {c : Call (Noted Host.Event σ)} (hc : t.calls[number]? = some c)
    (hstage : c.entry.stage = .starting n) {i : Nat} (hi : i ≠ number)
    {d : Call (Noted Host.Event σ)} (hd : t.calls[i]? = some d) :
    d.entry.stage.provider? ≠ some n := by
  have hentry : (t.calls.map Call.entry)[number]? = some c.entry := by simp [hc]
  have hother : (t.calls.map Call.entry)[i]? = some d.entry := by simp [hd]
  have hphase := Ledger.phase_of_mem hb (List.mem_of_getElem? hentry) hstage
  intro hprovider
  cases hs : d.entry.stage with
  | idle => simp [hs, Stage.provider?] at hprovider
  | starting m =>
    obtain rfl : m = n := by simpa [hs, Stage.provider?] using hprovider
    exact hi (Ledger.starting_unique hb hother hentry hs hstage)
  | reading m =>
    obtain rfl : m = n := by simpa [hs, Stage.provider?] using hprovider
    obtain ⟨k, hk⟩ := hb.handle_of_reading (List.mem_of_getElem? hother) hs
    simp [hphase, Phase.handle?] at hk
  | closing k m =>
    obtain rfl : m = n := by simpa [hs, Stage.provider?] using hprovider
    have hclosing := hb.closers _ (List.mem_of_getElem? hother) k m hs
    simp [hphase] at hclosing

/-- When a start fails in its second half, its provider is adrift. -/
theorem Booked.adrift {phase : Nat → Phase} (hb : Booked phase t)
    {op : Operation (Noted Host.Event σ)} {name : String}
    (hc : t.calls[number]? = some ⟨op, .waits (.starting ⟨name, n⟩)⟩) {e : Failure HostError}
    (he : (t.step env.noted (Move.resume number).noted).calls[number]? =
      some ⟨op, .ended (.error e)⟩) :
    (t.step env.noted (Move.resume number).noted).Adrift n ∧
      Host.FailedStart env n t.host e
        ((t.step env.noted (Move.resume number).noted).shutdowns n) := by
  have hmem : Call.entry ⟨op, .waits (.starting ⟨name, n⟩)⟩ ∈ t.calls.map Call.entry :=
    List.mem_map_of_mem (List.mem_of_getElem? hc)
  have hphase := Ledger.phase_of_mem hb hmem rfl
  have hlt : number < t.calls.length := (List.getElem?_eq_some_iff.1 hc).1
  have hmade : n < t.host.made := Nat.lt_of_not_le fun h => by simp [(hb.made n).2 h] at hphase
  have hunbound : ∀ k, t.host.books.bindings k ≠ some n := fun k hk => by
    simp [(hb.bindings k n).1 hk] at hphase
  have hfit := hb.fits n
  rw [hphase] at hfit
  have hnever : t.host.world.shutdowns n = 0 := congrArg Standing.shutdowns hfit
  rw [Move.noted, step_resume_waits hc] at he ⊢
  rw [List.getElem?_set_self hlt] at he
  have hresult : ((Host.endStart env.noted ⟨name, n⟩).run t.host).result = .error e := by
    have hprogress : Operation.Progress.endedWith .handle
        ((Host.endStart env.noted ⟨name, n⟩).run t.host).result = .ended (.error e) :=
      congrArg Call.progress (Option.some.inj he)
    cases hr : ((Host.endStart env.noted ⟨name, n⟩).run t.host).result with
    | ok k => simp [hr, Operation.Progress.endedWith, Except.map] at hprogress
    | error e' => simpa [hr, Operation.Progress.endedWith, Except.map] using hprogress
  obtain ⟨hregistry, hmade', count, hfailed, hshutdowns⟩ :=
    Host.endStart_failed env ⟨name, n⟩ t.host e hresult
  refine ⟨⟨⟨Nat.lt_of_lt_of_eq hmade hmade'.symm, fun k hk => hunbound k ?_⟩, fun c hmem => ?_⟩, ?_⟩
  · rw [← hk]
    exact congrArg (Option.map Session.provider) (hregistry k).symm
  · obtain ⟨i, hget⟩ := List.mem_iff_getElem?.1 hmem
    rw [List.getElem?_set] at hget
    split_ifs at hget with hi
    · rw [Option.some.inj he] at hget
      cases hget
      exact (Option.some_ne_none n).symm
    · exact hb.starting_alone hc rfl (Ne.symm hi) hget
  · rw [hnever, Nat.zero_add] at hshutdowns
    subst hshutdowns
    exact hfailed

/-- Between the two steps of a start other moves are made; the second step ends it. -/
theorem exists_second_step {op : Operation (Noted Host.Event σ)} {s : Host.Starting}
    (hc : t.calls[number]? = some ⟨op, .waits (.starting s)⟩) (moves : List (Move σ))
    {result : Except (Failure HostError) Operation.Answer}
    (hend : (t.run env.noted (moves.map Move.noted)).calls[number]? =
      some ⟨op, .ended result⟩) :
    ∃ between later, moves = between ++ .resume number :: later ∧
      (t.run env.noted (between.map Move.noted)).calls[number]? =
        some ⟨op, .waits (.starting s)⟩ ∧
      ((t.run env.noted (between.map Move.noted)).step env.noted
        (Move.resume number).noted).calls[number]? = some ⟨op, .ended result⟩ := by
  induction moves generalizing t with
  | nil => cases hc.symm.trans hend
  | cons m moves ih =>
    have hlt : number < t.calls.length := (List.getElem?_eq_some_iff.1 hc).1
    cases hm : m.resumes number with
    | false =>
      obtain ⟨between, later, rfl, hwaits, hended⟩ := ih ((calls_of_other hm hlt).trans hc) hend
      exact ⟨m :: between, later, rfl, hwaits, hended⟩
    | true =>
      obtain rfl := Move.resumes_iff.1 hm
      obtain ⟨⟨result', hresult⟩, -⟩ := Operation.resume_starting env.noted s t.host
      have hended : (t.step env.noted (Move.resume number).noted).calls[number]? =
          some ⟨op, .ended result'⟩ := by
        rw [Move.noted, step_resume_waits hc, hresult]
        exact List.getElem?_set_self hlt
      have hsame := (run_of_ended env.noted hended (moves.map Move.noted)).symm.trans hend
      exact ⟨[], moves, rfl, hc, hended.trans hsame⟩

/-- A start that fails after its provider has been made, however other calls go on meanwhile, fails
in one of four ways at its second step: the provider has been shut down once by then when it has
reported an error, and not at all otherwise. No session has the provider, then or later, and nothing
shuts it down any more. -/
theorem shutdowns_of_failedStart (env : Surroundings σ) (w : σ) (before after : List (Move σ))
    (model : Input) (check : Option (UrlCheck σ)) {e : Failure HostError} :
    let t := observed env w before
    let asked := before ++ [.ask (.setModel model check)]
    let t' := observed env w (asked ++ after)
    t.host.made < (observed env w asked).host.made →
    t'.calls[t.calls.length]?.bind Call.failure? = some e →
    ∃ between later, after = between ++ .resume t.calls.length :: later ∧
      Host.FailedStart env t.host.made (observed env w (asked ++ between)).host e
        (t'.shutdowns t.host.made) ∧
      ∀ k s, t'.host.registry.get? k = some s → s.provider ≠ t.host.made := by
  intro t asked t' hmade hend
  have hasked : observed env w asked =
      t.step env.noted (Move.ask (.setModel model check)).noted := observed_append env w before _
  have hlast : (observed env w asked).calls[t.calls.length]? =
      some ⟨(Operation.setModel model check).noted,
        (((Operation.setModel model check).noted.start env.noted).run t.host).result⟩ := by
    rw [hasked]
    exact List.getElem?_concat_length
  rw [hasked] at hmade
  obtain ⟨name, hname⟩ := Operation.start_setModel_made env model check t.host hmade
  rw [hname] at hlast
  have hrun : t' = (observed env w asked).run env.noted (after.map Move.noted) :=
    observed_append env w asked after
  obtain ⟨c, hc, he⟩ := Option.bind_eq_some_iff.1 hend
  rw [hrun] at hc
  obtain ⟨q, hq⟩ := run_operation env.noted hlast (after.map Move.noted)
  cases hc.symm.trans hq
  rw [Call.failure?_eq_some.1 he] at hc
  obtain ⟨between, later, rfl, hwaits, hended⟩ := exists_second_step hlast after hc
  rw [← observed_append] at hwaits hended
  obtain ⟨phase, -, hb⟩ := (booked_fresh w).run env (asked ++ between)
  change Booked phase (observed env w (asked ++ between)) at hb
  obtain ⟨hadrift, hfailed⟩ := Booked.adrift hb hwaits hended
  obtain ⟨hlater, hshutdowns⟩ := hadrift.run (booked_next ⟨phase, hb⟩ _) env later
  have hrun' : t' = ((observed env w (asked ++ between)).step env.noted
      (Move.resume t.calls.length).noted).run env.noted (later.map Move.noted) := by
    rw [hrun, ← observed_append, ← List.append_assoc, observed_append]
    rfl
  rw [← hrun'] at hlater hshutdowns
  refine ⟨between, later, rfl, ?_, fun k s hs hn => ?_⟩
  · rw [hshutdowns]
    exact hfailed
  · refine hlater.books.unbound k ?_
    rw [← hn]
    exact congrArg (Option.map Session.provider) hs

/-- A world in which the first provider cannot be started. -/
def startFailing (failure : Failure ProviderError) : Scripted.HostWorld where
  scripts := [(0, { startFailure := some failure })]

/-- The moves after the first start has been asked for: a second one takes both of its steps before
the first goes on. -/
def overtaking : List (Move Scripted.HostWorld) :=
  [.ask (.setModel (.text "gemma-2-2b-it") none), .resume 1, .resume 0]

theorem shutdowns_of_failedStart_overtaken :
    let env := Scripted.HostWorld.surroundings .standard {} ⟨2025, 1, 31⟩
    let asked := [.ask (.setModel (.text "gemma-2-2b-it") none)]
    let t := observed env (startFailing (.known ⟨.server, "no port"⟩)) (asked ++ overtaking)
    (observed env (startFailing (.known ⟨.server, "no port"⟩)) asked).host.made = 1 ∧
      t.shutdowns 0 = 1 ∧ (t.host.registry.get? 1).map Session.provider = some 1 ∧
      ∀ k s, t.host.registry.get? k = some s → s.provider ≠ 0 := by
  intro env asked t
  have hmade : (observed env (startFailing (.known ⟨.server, "no port"⟩)) asked).host.made = 1 := by
    decide +kernel
  have hend : t.calls[0]?.bind Call.failure? = some (.known ⟨.modelInitializationFailed, "no port",
      some (.provider ⟨.server, "no port"⟩)⟩) := by
    decide +kernel
  have hother : (t.host.registry.get? 1).map Session.provider = some 1 := by
    decide +kernel
  obtain ⟨between, later, -, hfailed, hunbound⟩ := shutdowns_of_failedStart env _ [] overtaking
    (.text "gemma-2-2b-it") none (Nat.lt_of_lt_of_eq Nat.one_pos hmade.symm) hend
  refine ⟨hmade, ?_, hother, hunbound⟩
  change Host.FailedStart _ _ _ _ (t.shutdowns 0) at hfailed
  generalize t.shutdowns 0 = count at hfailed
  cases hfailed
  rfl

/-- A provider whose start comes to a fault is not shut down. -/
theorem not_shutdown_of_fault :
    let env := Scripted.HostWorld.surroundings .standard {} ⟨2025, 1, 31⟩
    let boom : Fault := .outside .runtime "boom"
    let t := observed env (startFailing (.fault boom))
      [.ask (.setModel (.text "gemma-2-2b-it") none), .resume 0]
    t.host.made = 1 ∧ t.calls[0]?.bind Call.failure? = some (.fault boom) ∧
      t.shutdowns 0 = 0 ∧ t.host.registry.handles = [] := by
  decide +kernel

end Traffic

end ChatHost
