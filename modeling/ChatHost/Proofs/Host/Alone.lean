import ChatHost.Proofs.Host.Follow

set_option autoImplicit false

/-!
A session that goes on among others comes to what it comes to by itself. The moves that are kept of
the traffic, on a host of its own, lead to the same session, the same calls on its provider and the
same result of each call on it.
-/

namespace ChatHost

variable {σ γ : Type}

namespace Excerpt

variable {env : Surroundings σ} {view : σ → γ} {n first number : Nat} {k : Handle} {w : σ}
  {x : Excerpt σ}

/-- What the moves that are kept lead to on a host of its own. -/
def solo (env : Surroundings σ) (n : Nat) (w : σ) (x : Excerpt σ) :
    Traffic (Noted Host.Event σ) :=
  Traffic.observed (env.only n) w x.moves

theorem solo_keep (env : Surroundings σ) (n : Nat) (w : σ) (x : Excerpt σ) (m : Move σ) :
    (x.keep m).solo env n w = (x.solo env n w).step (env.only n).noted m.noted :=
  Traffic.observed_append (env.only n) w x.moves [m]

/-- Whether the session is the same by itself as in the traffic. -/
structure Sound (env : Surroundings σ) (view : σ → γ) (n : Nat) (k : Handle) (first : Nat) (w : σ)
    (x : Excerpt σ) : Prop where
  follows : Traffic.Follows view n k first x.traffic x.place (x.solo env n w)
  count : x.count = (x.solo env n w).calls.length

theorem sound_keepCall {op : Operation σ} (hcount : x.count = (x.solo env n w).calls.length)
    (h : Traffic.Follows view n k first x.traffic
      (Function.update x.place number (some (x.solo env n w).calls.length))
      ((x.solo env n w).step (env.only n).noted (Move.ask op).noted)) :
    (x.keepCall number op).Sound env view n k first w := by
  have hsolo : (x.keepCall number op).solo env n w =
      (x.solo env n w).step (env.only n).noted (Move.ask op).noted := solo_keep env n w x _
  refine ⟨?_, ?_⟩
  · rw [hsolo]
    rw [← hcount] at h
    exact h
  · rw [hsolo]
    show x.count + 1 = ((x.solo env n w).calls ++ [_]).length
    rw [hcount, List.length_append, List.length_singleton]

theorem count_keep {m : Move σ} (hcount : x.count = (x.solo env n w).calls.length)
    (hm : ∀ op, m ≠ .ask op) : (x.keep m).count = ((x.keep m).solo env n w).calls.length := by
  rw [solo_keep]
  refine hcount.trans ?_
  cases m with
  | ask op => exact absurd rfl (hm op)
  | outside change => rfl
  | resume number => exact (Traffic.length_resume ..).symm

theorem sound_keep {m : Move σ} (hcount : x.count = (x.solo env n w).calls.length)
    (hm : ∀ op, m ≠ .ask op)
    (h : Traffic.Follows view n k first x.traffic x.place
      ((x.solo env n w).step (env.only n).noted m.noted)) :
    (x.keep m).Sound env view n k first w :=
  ⟨solo_keep env n w x m ▸ h, count_keep hcount hm⟩

theorem keepResume_of_some {j : Nat} (hplace : x.place number = some j) :
    x.keepResume number = x.keep (.resume j) := by
  simp only [keepResume, hplace]

theorem keepResume_of_none (hplace : x.place number = none) : x.keepResume number = x := by
  simp only [keepResume, hplace]

theorem Sound.resume (h : x.Sound env view n k first w) (hp : env.Apart view n)
    {op : Operation (Noted Host.Event σ)} {p : Operation.Pending}
    (hc : x.traffic.calls[number]? = some ⟨op, .waits p⟩)
    (heach : ∀ j m left, p ≠ .closingEach j m left) (hparted : x.traffic.Parted n k first)
    (hparted' : (x.traffic.step env.noted (Move.resume number).noted).Parted n k first)
    (hcourse : x.traffic.OnCourse (env.Serves view k))
    (hcourse' : (x.traffic.step env.noted (Move.resume number).noted).OnCourse
      (env.Serves view k)) :
    (keepResume number { x with traffic := x.traffic.step env.noted (Move.resume number).noted
      }).Sound env view n k first w := by
  cases hplace : x.place number with
  | none =>
    rw [keepResume_of_none (by exact hplace)]
    exact ⟨h.follows.resumeOther hp hc hplace heach hparted hparted' hcourse hcourse', h.count⟩
  | some j =>
    rw [keepResume_of_some (by exact hplace)]
    refine sound_keep h.count (fun _ => nofun) ?_
    obtain ⟨c, c', hcall, hcall', halike⟩ := h.follows.calls.alike number j hplace
    cases hc.symm.trans hcall
    cases halike with
    | own op hpp =>
      cases hpp with
      | waits hpp => exact h.follows.resumeOwn hp hc hplace hcall' hpp hparted hparted' hcourse
    | closing left => exact absurd rfl (heach _ _ _)
    | closed hat result =>
      have hwaits := hcourse.calls _ _ hc
      cases p with
      | closingEach j m left => exact absurd rfl (heach _ _ _)
      | _ => cases hwaits

theorem Sound.resumeClosing (h : x.Sound env view n k first w) (hp : env.Apart view n) {m : Nat}
    {left : List Handle}
    (hc : x.traffic.calls[number]? = some ⟨.closeAll, .waits (.closingEach k m left)⟩)
    (hparted : x.traffic.Parted n k first) :
    let q := ((Operation.resume env.noted (.closingEach k m left)).run x.traffic.host).result
    let next : Excerpt σ := keepResume number
      { x with traffic := x.traffic.step env.noted (Move.resume number).noted }
    (if k ∈ q.passed left then next.keepCall number (.close 1) else next).Sound env view n k first
      w := by
  intro q next
  have hat : Call.On first k number (⟨.closeAll, .waits (.closingEach k m left)⟩ :
      Call (Noted Host.Event σ)) := .inr (.inr (decide_eq_true rfl))
  obtain ⟨j, hplace⟩ := h.follows.calls.own number _ hc hat
  have hnext : next = keep (.resume j)
      { x with traffic := x.traffic.step env.noted (Move.resume number).noted } :=
    keepResume_of_some hplace
  obtain ⟨c, c', hcall, hcall', halike⟩ := h.follows.calls.alike number j hplace
  cases hc.symm.trans hcall
  cases halike with
  | own op hpp =>
    cases hpp with
    | waits hpp => cases hpp
  | closed hat' result => exact absurd (hat'.symm.trans (decide_eq_true rfl)) nofun
  | closing left =>
    have hresume := h.follows.resumeClosing hp hc hplace hcall' hparted
    rw [hnext]
    split_ifs with hk
    · rw [if_pos (by exact hk), ← solo_keep] at hresume
      exact sound_keepCall (count_keep h.count fun _ => nofun) hresume
    · rw [if_neg (by exact hk)] at hresume
      exact sound_keep h.count (fun _ => nofun) hresume

/-- Every move of the traffic is followed, once the session is told apart from the others. -/
theorem Sound.step (h : x.Sound env view n k first w) (hp : env.Apart view n) {m : Move σ}
    (hm : m.Apart env view k) (hfirst : ∀ op, m = .ask op → x.traffic.calls.length ≠ first)
    (hparted : x.traffic.Parted n k first)
    (hparted' : (x.traffic.step env.noted m.noted).Parted n k first)
    (hcourse : x.traffic.OnCourse (env.Serves view k))
    (hcourse' : (x.traffic.step env.noted m.noted).OnCourse (env.Serves view k)) :
    (x.step env first k m).Sound env view n k first w := by
  cases m with
  | outside change => exact sound_keep h.count (fun _ => nofun) (h.follows.outside hm)
  | ask op =>
    have hlength := hfirst op rfl
    by_cases hall : op = .closeAll
    · subst hall
      have hask := h.follows.askAll env hlength
      simp only [Excerpt.step, Operation.names, hlength, false_or, Bool.false_eq_true]
      split_ifs with hk
      · rw [if_pos (by exact hk)] at hask
        exact sound_keepCall h.count hask
      · rw [if_neg (by exact hk)] at hask
        exact ⟨hask, h.count⟩
    · have haims : op.noted.aims x.traffic.host = [] := by
        cases op with
        | closeAll => exact absurd rfl hall
        | _ => rfl
      simp only [Excerpt.step, haims, Operation.Progress.passed_nil, List.not_mem_nil, or_false,
        hlength, false_or]
      split_ifs with hname
      · exact sound_keepCall h.count (h.follows.askOwn hp hname hlength)
      · exact ⟨h.follows.askOther hp hall (Bool.eq_false_iff.2 hname) hm hlength hparted hparted'
          hcourse', h.count⟩
  | resume number =>
    have hidle (hsame : x.traffic.step env.noted (Move.resume number).noted = x.traffic)
        (hstep : x.step env first k (.resume number) =
          { x with traffic := x.traffic.step env.noted (Move.resume number).noted }) :
        (x.step env first k (.resume number)).Sound env view n k first w := by
      rw [hstep, hsame]
      exact h
    cases hc : x.traffic.calls[number]? with
    | none => exact hidle (Traffic.step_resume_none hc) (by simp only [Excerpt.step, hc])
    | some c =>
      obtain ⟨op, result | p⟩ := c
      · exact hidle (Traffic.step_resume_ended hc) (by simp only [Excerpt.step, hc])
      · simp only [Excerpt.step, hc]
        by_cases heach : ∃ j m left, p = .closingEach j m left
        · obtain ⟨j, m, left, rfl⟩ := heach
          have hwaits := hcourse.calls _ _ hc
          cases op with
          | closeAll =>
            by_cases hj : j = k
            · subst hj
              have hconcerns : Operation.Pending.concerns j (.closingEach j m left) = true :=
                decide_eq_true rfl
              rw [if_pos hconcerns]
              exact h.resumeClosing hp hc hparted
            · have hconcerns : ¬ Operation.Pending.concerns k (.closingEach j m left) = true :=
                fun hconcerns => hj (of_decide_eq_true hconcerns)
              rw [if_neg hconcerns]
              have hresume := h.follows.resumeClosingOther hp hc hj hparted
              split_ifs with hk
              · rw [if_pos (by exact hk)] at hresume
                exact sound_keepCall h.count hresume
              · rw [if_neg (by exact hk)] at hresume
                exact ⟨hresume, h.count⟩
          | _ => cases hwaits
        · have hplain : p.ahead = [] ∧ p.concerns k = true := by
            cases p with
            | closingEach j m left => exact absurd ⟨j, m, left, rfl⟩ heach
            | _ => exact ⟨rfl, rfl⟩
          obtain ⟨hahead, hconcerns⟩ := hplain
          rw [hahead, Operation.Progress.passed_nil, if_neg List.not_mem_nil, if_pos hconcerns]
          exact h.resume hp hc (fun j m left hp' => heach ⟨j, m, left, hp'⟩) hparted hparted'
            hcourse hcourse'

theorem Sound.begin (h : x.Sound env view n k first w) (hp : env.Apart view n) {model : Input}
    {check : Option (UrlCheck σ)} (hcheck : ∀ c, check = some c → ∀ parts, (c parts).Sees view)
    (hmade : x.traffic.host.made = n) (hlength : x.traffic.calls.length = first)
    (hparted' : (x.traffic.step env.noted (Move.ask (.setModel model check)).noted).Parted n k
      first) :
    (x.step env first k (.ask (.setModel model check))).Sound env view n k first w := by
  subst hlength
  simp only [Excerpt.step, true_or, if_true]
  exact sound_keepCall h.count (h.follows.askFirst hp hcheck hmade hparted')

theorem declares_noted {d : Handle → Text.Letters → Prop} {op : Operation σ} (h : op.Declares d) :
    op.noted.Declares d := by
  cases op with
  | setOptions j input => exact h
  | _ => trivial

theorem onCourse_step (h : x.traffic.OnCourse (env.Serves view k)) {m : Move σ}
    (hm : ∀ op, m = .ask op → op.Declares (env.Serves view k)) :
    (x.traffic.step env.noted m.noted).OnCourse (env.Serves view k) := by
  refine h.step env.noted m.noted fun op hop => ?_
  cases m with
  | ask operation =>
    cases hop
    exact declares_noted (hm operation rfl)
  | resume number => cases hop
  | outside change => cases hop

/-- Moves are followed while the session is not started, and when its start has been asked for. -/
theorem Sound.run (h : x.Sound env view n k first w) (hp : env.Apart view n)
    (hcourse : x.traffic.OnCourse (env.Serves view k)) {moves : List (Move σ)}
    (hmoves : ∀ m ∈ moves, m.Apart env view k)
    (hlength : first < x.traffic.calls.length ∨
      (x.traffic.run env.noted (moves.map Move.noted)).calls.length ≤ first)
    (hparted : ∀ earlier later, moves = earlier ++ later →
      (x.traffic.run env.noted (earlier.map Move.noted)).Parted n k first) :
    (moves.foldl (Excerpt.step env first k) x).Sound env view n k first w ∧
      (moves.foldl (Excerpt.step env first k) x).traffic.OnCourse (env.Serves view k) := by
  -- on the moves, which are kept one by one; the session is parted after each of them
  induction moves generalizing x with
  | nil => exact ⟨h, hcourse⟩
  | cons m moves ih =>
    have hm := hmoves m List.mem_cons_self
    have htraffic := step_traffic env first k x m
    have hcourse' := onCourse_step (m := m) hcourse fun op hop => by
      subst hop
      exact hm.1
    have hfirst (op : Operation σ) (hop : m = .ask op) : x.traffic.calls.length ≠ first := by
      subst hop
      rcases hlength with hlt | hle
      · exact Nat.ne_of_gt hlt
      · have hrun := Traffic.length_run env.noted
          (x.traffic.step env.noted (Move.ask op).noted) (moves.map Move.noted)
        have hlt : x.traffic.calls.length <
            (x.traffic.step env.noted (Move.ask op).noted).calls.length :=
          Nat.lt_of_lt_of_eq (Nat.lt_succ_self _) (Traffic.length_ask ..).symm
        exact Nat.ne_of_lt (Nat.lt_of_lt_of_le hlt (Nat.le_trans hrun hle))
    have hparted₀ : x.traffic.Parted n k first := hparted [] (m :: moves) rfl
    have hparted₁ : (x.traffic.step env.noted m.noted).Parted n k first :=
      hparted [m] moves rfl
    refine ih (h.step hp hm hfirst hparted₀ hparted₁ hcourse hcourse') (htraffic ▸ hcourse')
      (fun m' hm' => hmoves m' (List.mem_cons_of_mem _ hm')) ?_ fun earlier later hsplit => ?_
    · rw [htraffic]
      exact hlength.imp_left fun hlt => Nat.lt_of_lt_of_le hlt (Traffic.length_step ..)
    · rw [htraffic]
      exact hparted (m :: earlier) later (congrArg _ hsplit)

/-- A move of which nothing is kept leaves all as it is that belongs to the session. -/
theorem Sound.lane_of_kept (h : x.Sound env view n k first w)
    (hp : env.Apart view n) {m : Move σ} (hm : m.Apart env view k)
    (hlt : first < x.traffic.calls.length) (hparted : x.traffic.Parted n k first)
    (hparted' : (x.traffic.step env.noted m.noted).Parted n k first)
    (hcourse : x.traffic.OnCourse (env.Serves view k))
    (hkept : (x.step env first k m).moves = x.moves) :
    (x.traffic.step env.noted m.noted).host.lane view n k = x.traffic.host.lane view n k := by
  have hcourse' := onCourse_step (m := m) hcourse fun op hop => by
    subst hop
    exact hm.1
  have hstep := h.step hp hm (fun _ _ => Nat.ne_of_gt hlt) hparted hparted' hcourse hcourse'
  have hfollows := hstep.follows
  rw [step_traffic] at hfollows
  exact h.follows.lane hfollows (congrArg (Traffic.observed (env.only n) w) hkept)

theorem paired_fresh (n first : Nat) (k : Handle) :
    Call.Paired n k first ([] : List (Call σ)) (fun _ => none) [] where
  alike _ _ hj := by cases hj
  injective _ _ _ hj := by cases hj
  own _ _ hc := by cases hc

theorem twins_fresh (view : σ → γ) (n : Nat) (k : Handle) (w : σ) :
    Host.Twins view n k 0 1 { world := ⟨w, []⟩ } { world := ⟨w, []⟩ } where
  session := rfl
  provider _ hs := by cases hs
  lease := rfl
  side := rfl
  made := rfl
  next := rfl

theorem sound_fresh (env : Surroundings σ) (view : σ → γ) (n first : Nat) (k : Handle) (w : σ) :
    Sound env view n k first w { traffic := { host := { world := ⟨w, []⟩ } } } :=
  ⟨⟨twins_fresh view n k w, paired_fresh n first k⟩, rfl⟩

theorem onCourse_fresh (d : Handle → Text.Letters → Prop) (w : σ) :
    Traffic.OnCourse d ({ host := { world := ⟨w, []⟩ } } : Traffic (Noted Host.Event σ)) where
  equips _ _ hs := by cases hs
  calls _ _ hc := by cases hc

/-- The whole traffic is followed, when the session is started in it. -/
theorem sound_ofMoves (hp : env.Apart view n) {before after : List (Move σ)} {model : Input}
    {check : Option (UrlCheck σ)} (hmade : (Traffic.observed env w before).host.made = n)
    (hfirst : (Traffic.observed env w before).calls.length = first)
    (hcheck : ∀ c, check = some c → ∀ parts, (c parts).Sees view)
    (hmoves : ∀ m ∈ before ++ after, m.Apart env view k)
    (hparted : ∀ earlier later, before ++ .ask (.setModel model check) :: after = earlier ++ later →
      (Traffic.observed env w earlier).Parted n k first) :
    let x := ofMoves env first k w (before ++ .ask (.setModel model check) :: after)
    x.Sound env view n k first w ∧ x.traffic.OnCourse (env.Serves view k) := by
  intro x
  have hbefore : (ofMoves env first k w before).Sound env view n k first w ∧
      (ofMoves env first k w before).traffic.OnCourse (env.Serves view k) := by
    refine (sound_fresh env view n first k w).run hp (onCourse_fresh _ w)
      (fun m hm => hmoves m (List.mem_append_left _ hm)) (.inr (Nat.le_of_eq hfirst)) ?_
    intro earlier later hsplit
    refine hparted earlier (later ++ .ask (.setModel model check) :: after) ?_
    rw [hsplit, List.append_assoc]
  have htraffic := ofMoves_traffic env first k w before
  obtain ⟨hsound, hcourse⟩ := hbefore
  have hrest (rest : List (Move σ)) :
      Traffic.observed env w (before ++ .ask (.setModel model check) :: rest) =
        (((ofMoves env first k w before).step env first k
          (.ask (.setModel model check))).traffic).run env.noted (rest.map Move.noted) := by
    rw [Traffic.observed_append, step_traffic, htraffic]
    rfl
  have hbegin : ((ofMoves env first k w before).step env first k
      (.ask (.setModel model check))).Sound env view n k first w := by
    refine hsound.begin hp hcheck (htraffic ▸ hmade) (htraffic ▸ hfirst) ?_
    have hpart := hparted (before ++ [.ask (.setModel model check)]) after (by simp)
    rw [hrest [], step_traffic] at hpart
    exact hpart
  have hcourse' := onCourse_step (m := .ask (.setModel model check)) hcourse fun op hop => by
    cases hop
    trivial
  rw [← step_traffic env first k] at hcourse'
  have hx : x = after.foldl (step env first k)
      ((ofMoves env first k w before).step env first k (.ask (.setModel model check))) :=
    List.foldl_append
  rw [hx]
  refine hbegin.run hp hcourse' (fun m hm => hmoves m (List.mem_append_right _ hm)) (.inl ?_) ?_
  · rw [step_traffic, htraffic, ← hfirst]
    exact Nat.lt_of_lt_of_eq (Nat.lt_succ_self _) (Traffic.length_ask ..).symm
  · intro earlier later hsplit
    rw [← hrest earlier]
    refine hparted _ later ?_
    rw [hsplit, List.append_assoc, List.cons_append]

end Excerpt

def Call.handle? : Call σ → Option Handle
  | ⟨_, .ended (.ok (.handle k))⟩ => some k
  | _ => none

theorem Call.handle?_eq_some {c : Call σ} {k : Handle} (h : c.handle? = some k) :
    c.progress = .ended (.ok (.handle k)) := by
  obtain ⟨op, result | p⟩ := c
  · rcases result with e | _ | _ | _
    · cases h
    · cases h
    · cases h
      rfl
    · cases h
  · cases h

namespace Traffic

variable {env : Surroundings σ} {view : σ → γ} {n first : Nat} {k : Handle} {w : σ}

/-- However operations on several sessions go on together, a session is the same as when it is by
itself, with the moves that are kept of the traffic: what it is, the leases on its provider, what it
sees of the outside world and what has been asked of its provider; and each call on it has come as
far, to the same result. A move of which nothing is kept leaves all of this as it is. -/
theorem session_of_excerpt (env : Surroundings σ) (view : σ → γ) (w : σ)
    (before after : List (Move σ)) (model : Input) (check : Option (UrlCheck σ)) {n first : Nat}
    {k : Handle} (hmade : (observed env w before).host.made = n)
    (hfirst : (observed env w before).calls.length = first)
    (hstart : (observed env w (before ++ .ask (.setModel model check) :: after)).calls[first]?.bind
      Call.handle? = some k)
    (hp : env.Apart view n) (hcheck : ∀ c, check = some c → ∀ parts, (c parts).Sees view)
    (hmoves : ∀ m ∈ before ++ after, m.Apart env view k) :
    let t := observed env w (before ++ .ask (.setModel model check) :: after)
    let x := Excerpt.ofMoves env first k w (before ++ .ask (.setModel model check) :: after)
    let s := observed (env.only n) w x.moves
    ((t.host.registry.get? k).map Session.alone = s.host.registry.get? 1 ∧
      t.host.leaseOf n = s.host.leaseOf 0 ∧
      view t.host.world.world = view s.host.world.world ∧
      t.host.world.asked n = s.host.world.asked 0) ∧
    (∀ i c, t.calls[i]? = some c → i = first ∨ c.operation.names k = true →
      ∃ j q, x.place i = some j ∧ s.calls[j]? = some ⟨c.operation.alone, q⟩ ∧
        Operation.Progress.Alike n k c.progress q) ∧
    Call.Paired n k first t.calls x.place s.calls ∧
    ∀ m, m.Apart env view k → (x.step env first k m).moves = x.moves →
      (t.step env.noted m.noted).host.lane view n k = t.host.lane view n k := by
  intro t x s
  -- that the session is parted from the others at a time is known from what its start comes to
  obtain ⟨c, hc, hk⟩ := Option.bind_eq_some_iff.1 hstart
  obtain ⟨op, q⟩ := c
  obtain rfl : q = .ended (.ok (.handle k)) := Call.handle?_eq_some hk
  have hparted (later : List (Move σ)) {earlier rest : List (Move σ)}
      (hsplit : before ++ .ask (.setModel model check) :: (after ++ later) = earlier ++ rest) :
      (observed env w earlier).Parted n k first := by
    have hlater := run_of_ended env.noted hc (later.map Move.noted)
    rw [← observed_append, List.append_assoc, List.cons_append, ← hfirst] at hlater
    rw [← hmade, ← hfirst]
    exact parted_of_setModel env w before (after ++ later) model check hlater hsplit
  obtain ⟨hsound, hcourse⟩ := Excerpt.sound_ofMoves hp hmade hfirst hcheck hmoves
    fun earlier rest hsplit => hparted [] (by rw [List.append_nil]; exact hsplit)
  have hx : x.traffic = t := Excerpt.ofMoves_traffic ..
  have hfollows : Follows view n k first t x.place s := hx ▸ hsound.follows
  obtain ⟨hview, hasked⟩ := Prod.mk.inj hfollows.host.side
  refine ⟨⟨hfollows.host.session, hfollows.host.lease, hview, hasked⟩, ?_, hfollows.calls, ?_⟩
  · intro i c hi hon
    have hop : c.operation ≠ .closeAll := by
      intro hall
      rcases hon with hi' | hname
      · rw [hi', ← hfirst] at hi
        cases hall.symm.trans (operation_of_asked env w before after _ hi)
      · rw [hall] at hname
        cases hname
    exact hfollows.calls.progress hi hon hop
  · intro m hm hkept
    have hlt : first < x.traffic.calls.length := by
      rw [hx]
      exact (List.getElem?_eq_some_iff.1 hc).1
    have hnow : x.traffic.Parted n k first := by
      rw [hx]
      exact hparted [] (List.append_assoc before (_ :: after) []).symm
    have hnext : (x.traffic.step env.noted m.noted).Parted n k first := by
      have hpart : (observed env w
          (before ++ .ask (.setModel model check) :: (after ++ [m]))).Parted n k first :=
        hparted [m] (List.append_nil _).symm
      rw [← List.cons_append, ← List.append_assoc, observed_append] at hpart
      rw [hx]
      exact hpart
    have hlane := hsound.lane_of_kept hp hm hlt hnow hnext hcourse hkept
    rwa [hx] at hlane

def preceding : List (Move Scripted.HostWorld) :=
  [.ask (.setModel (.text "gemma-2-2b-it") none), .resume 0]

/-- The moves in which it is started and used together with another one, and closed in the middle of
a round. -/
def following : List (Move Scripted.HostWorld) :=
  [.ask (.prompt 1 (.text "Hello")), .resume 1, .ask (.prompt 2 (.text "Good day")),
    .ask (.setOptions 2 (.given { toolEndpoints := some ["http://tools.test/sse"] })),
    .ask (.readResponse 1), .resume 4, .ask (.readResponse 2), .ask (.close 1), .resume 5,
    .ask .closeAll, .resume 6, .resume 8, .resume 6]

/-- Whether a move neither brings a check of URLs of its own nor changes what is scripted. -/
def isScripted : Move Scripted.HostWorld → Bool
  | .ask (.setModel _ check) => check.isNone
  | .outside _ => false
  | _ => true

theorem apart_of_scripted {policy : Model.Policy} {config : ServerConfig} {today : Date}
    {m : Move Scripted.HostWorld} (hm : isScripted m = true) :
    m.Apart (Scripted.HostWorld.surroundings policy config today)
      (Scripted.HostWorld.seen n) k := by
  cases m with
  | ask op =>
    refine ⟨?_, ?_⟩
    · cases op with
      | setOptions j input => exact fun _ _ _ _ _ _ => Scripted.HostWorld.serves ..
      | _ => trivial
    · intro model check hop
      subst hop
      cases hm
  | resume number => trivial
  | outside change => cases hm

theorem session_of_interleaved :
    let env := Scripted.HostWorld.surroundings .standard {} ⟨2025, 1, 31⟩
    let moves := preceding ++ .ask (.setModel (.text "gemma-2-2b-it") none) :: following
    let x := Excerpt.ofMoves env 1 2 {} moves
    let s := observed (env.only 1) {} x.moves
    (observed env {} moves).host.leaseOf 1 = s.host.leaseOf 0 ∧ (s.host.leaseOf 0).closed = true ∧
      ∃ (c : Call _) (j : Nat) (q : Operation.Progress),
        (observed env {} moves).calls[6]? = some c ∧ c.operation.names 2 = true ∧
        s.calls[j]? = some ⟨c.operation.alone, q⟩ ∧
        Operation.Progress.Alike 1 2 c.progress q := by
  intro env moves x s
  have hclosed : ((observed env {} moves).host.leaseOf 1).closed = true := by
    decide +kernel
  have hnames : (observed env {} moves).calls[6]?.map (fun c => c.operation.names 2) =
      some true := by
    decide +kernel
  have hmade : (observed env {} preceding).host.made = 1 := by
    decide +kernel
  have hfirst : (observed env {} preceding).calls.length = 1 := by
    decide +kernel
  have hstart : ((observed env {} moves).calls[1]?).bind Call.handle? = some 2 := by
    decide +kernel
  have hscripted : ∀ m ∈ preceding ++ following, isScripted m = true := by
    decide +kernel
  obtain ⟨c, hc, hname⟩ := Option.map_eq_some_iff.1 hnames
  obtain ⟨⟨-, hlease, -, -⟩, hown, -, -⟩ := session_of_excerpt env (Scripted.HostWorld.seen 1) {}
    preceding following (.text "gemma-2-2b-it") none hmade hfirst hstart
    (Scripted.HostWorld.apart _ _ _ 1) nofun fun m hm => apart_of_scripted (hscripted m hm)
  obtain ⟨j, q, -, hcall, halike⟩ := hown 6 c hc (.inr hname)
  have halone : (s.host.leaseOf 0).closed = true := by
    rw [← hclosed, hlease]
  exact ⟨hlease, halone, c, j, q, hc, hname, hcall, halike⟩

end Traffic

end ChatHost
