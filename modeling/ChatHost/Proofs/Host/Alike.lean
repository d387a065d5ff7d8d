import ChatHost.Proofs.Host.Twins

set_option autoImplicit false

/-!
Operations on a session that go on on two hosts: among others on the one, by itself on the other.
Step by step they come as far, and where all sessions are closed on the one host, this one is closed
on the other when it is reached.
-/

namespace ChatHost

variable {σ γ : Type}

namespace Operation

variable {env : Surroundings σ} {view : σ → γ} {n : Nat} {k : Handle} {made next : Nat}

/-- The operation as it is asked for when the session is by itself. Closing all sessions closes it.
-/
def alone : Operation σ → Operation σ
  | .setModel model check => .setModel model check
  | .getModel _ => .getModel 1
  | .setOptions _ options => .setOptions 1 options
  | .getOptions _ => .getOptions 1
  | .prompt _ text => .prompt 1 text
  | .readResponse _ => .readResponse 1
  | .close _ | .closeAll => .close 1

theorem alone_noted (op : Operation σ) : op.alone.noted = op.noted.alone := by
  cases op <;> rfl

/-- Whether an answer on the one host is the answer on the other. -/
inductive Answer.Alike (k : Handle) : Answer → Answer → Prop
  | done : Alike k .done .done
  | text (text : String) : Alike k (.text text) (.text text)
  | handle : Alike k (.handle k) (.handle 1)

/-- Whether what is waited for on the one host is waited for on the other. -/
inductive Pending.Alike (n : Nat) (k : Handle) : Pending → Pending → Prop
  | starting (name : String) : Alike n k (.starting ⟨name, n⟩) (.starting ⟨name, 0⟩)
  | visiting (options : Options) (tools : Tools) (endpoint : Text.Letters)
      (left : List Text.Letters) :
    Alike n k (.visiting k options tools endpoint left) (.visiting 1 options tools endpoint left)
  | hearing (snapshot : Snapshot) :
    Alike n k (.hearing ⟨k, n, snapshot⟩) (.hearing ⟨1, 0, snapshot⟩)
  | scanning (snapshot : Snapshot) (reply : String) :
    Alike n k (.scanning ⟨k, n, snapshot⟩ reply) (.scanning ⟨1, 0, snapshot⟩ reply)
  | hearingAgain (snapshot : Snapshot) (request : Request) :
    Alike n k (.hearingAgain ⟨k, n, snapshot⟩ request) (.hearingAgain ⟨1, 0, snapshot⟩ request)
  | releasing {result result' : Except (Failure HostError) String}
    (h : Matched (Failure.Alike k) Eq result result') :
    Alike n k (.releasing n result) (.releasing 0 result')
  | closing : Alike n k (.closing k n) (.closing 1 0)

/-- Whether an operation has come as far on the one host as on the other. -/
inductive Progress.Alike (n : Nat) (k : Handle) : Progress → Progress → Prop
  | ended {result result' : Except (Failure HostError) Answer}
    (h : Matched (Failure.Alike k) (Answer.Alike k) result result') :
    Alike n k (.ended result) (.ended result')
  | waits {p p' : Pending} (h : Pending.Alike n k p p') : Alike n k (.waits p) (.waits p')

theorem alike_done {result result' : Except (Failure HostError) Unit}
    (h : Matched (Failure.Alike k) Eq result result') :
    Progress.Alike n k (.done result) (.done result') := by
  cases h with
  | ok => exact .ended (.ok .done)
  | error he => exact .ended (.error he)

theorem alike_said {result result' : Except (Failure HostError) String}
    (h : Matched (Failure.Alike k) Eq result result') :
    Progress.Alike n k (.said result) (.said result') := by
  cases h with
  | ok htext => exact htext ▸ .ended (.ok (.text _))
  | error he => exact .ended (.error he)

theorem alike_goOn {α β : Type} {q : α → β → Prop} {snapshot : Snapshot}
    {result : Except (Failure HostError) α} {result' : Except (Failure HostError) β}
    (h : Matched (Failure.Alike k) q result result') {next : α → Pending} {next' : β → Pending}
    (hnext : ∀ x y, q x y → Pending.Alike n k (next x) (next' y)) :
    Progress.Alike n k (.waits (goOn ⟨k, n, snapshot⟩ result next))
      (.waits (goOn ⟨1, 0, snapshot⟩ result' next')) := by
  cases h with
  | ok hxy => exact .waits (hnext _ _ hxy)
  | error he => exact .waits (.releasing (.error he))

/-- The first step of an operation on the session. -/
theorem start_twins (hp : env.Apart view n) (op : Operation σ) (hname : op.names k = true) :
    Act.Agree (Host.Twins view n k made next) (Progress.Alike n k) (op.noted.start env.noted)
      (op.alone.noted.start (env.only n).noted) := by
  cases op with
  | setModel model check => cases hname
  | getModel j =>
    obtain rfl : j = k := of_decide_eq_true hname
    exact (Host.twins_read _ fun _ => rfl).bind fun _ _ h => Act.agree_pure (alike_said h)
  | setOptions j input =>
    obtain rfl : j = k := of_decide_eq_true hname
    refine (Host.twins_beginConfigure input).bind fun result _ h => ?_
    cases h with
    | error he => exact Act.agree_pure (.ended (.error he))
    | ok hoptions =>
      subst hoptions
      dsimp only
      split
      · exact Act.agree_pure (.waits (.visiting ..))
      · exact (Host.twins_applyOptions hp _ _).bind fun _ _ h => Act.agree_pure (alike_done h)
  | getOptions j =>
    obtain rfl : j = k := of_decide_eq_true hname
    exact (Host.twins_read _ fun _ => rfl).bind fun _ _ h => Act.agree_pure (alike_said h)
  | prompt j text =>
    obtain rfl : j = k := of_decide_eq_true hname
    exact (Host.twins_prompt text).bind fun _ _ h => Act.agree_pure (alike_done h)
  | readResponse j =>
    obtain rfl : j = k := of_decide_eq_true hname
    refine (Host.twins_beginRound hp).bind fun _ _ h => Act.agree_pure ?_
    cases h with
    | error he => exact .ended (.error he)
    | ok hround =>
      cases hround
      exact .waits (.hearing _)
  | close j =>
    obtain rfl : j = k := of_decide_eq_true hname
    refine Host.twins_beginClose.bind fun _ _ h => ?_
    cases h with
    | none => exact Act.agree_pure (.ended (.ok .done))
    | some hprovider =>
      obtain ⟨rfl, rfl⟩ := hprovider
      exact Act.agree_pure (.waits .closing)
  | closeAll => cases hname

/-- A further step of an operation on the session. -/
theorem resume_twins (hp : env.Apart view n) {op : Operation (Noted Host.Event σ)} {p p' : Pending}
    (hpp : Pending.Alike n k p p') (hcourse : Call.OnCourse (env.Serves view k) ⟨op, .waits p⟩)
    (hstart : ∀ s, p ≠ .starting s) :
    Act.Agree (Host.Twins view n k made next) (Progress.Alike n k) (resume env.noted p)
      (resume (env.only n).noted p') := by
  cases hpp with
  | starting name => exact absurd rfl (hstart _)
  | visiting options tools endpoint left =>
    have hserves : ∀ e, Tool.endpoint? endpoint = some e →
        env.transport.At (fun _ a => a.Sees view) e := by
      cases op with
      | setOptions i input =>
        obtain ⟨rfl, -, hdeclared⟩ := hcourse
        intro e he
        have hserves := hdeclared endpoint List.mem_cons_self e he
        rwa [Surroundings.Serves, if_pos rfl] at hserves
      | _ => cases hcourse
    refine (Host.twins_visitEndpoint hserves).bind fun found _ hfound => ?_
    subst hfound
    cases left with
    | nil => exact (Host.twins_endConfigure hp _ _).bind fun _ _ h => Act.agree_pure (alike_done h)
    | cons next left => exact Act.agree_pure (.waits (.visiting ..))
  | hearing snapshot =>
    refine (Host.twins_firstReply hp snapshot).bind fun _ _ h => Act.agree_pure ?_
    refine alike_goOn h fun reply _ hreply => ?_
    subst hreply
    show Pending.Alike n k (if Round.scans ⟨k, n, snapshot⟩ then _ else _)
      (if Round.scans ⟨k, n, snapshot⟩ then _ else _)
    split
    · exact .scanning _ _
    · exact .releasing (.ok rfl)
  | scanning snapshot reply =>
    have hwithin : Tool.Within (env.transport.At fun _ a => a.Sees view)
        (snapshot.tools.getD []) := by
      cases op with
      | readResponse i =>
        obtain ⟨rfl, hwithin⟩ := hcourse
        intro name tool htool
        have hserves := hwithin name tool htool
        rwa [Surroundings.Serves, if_pos rfl] at hserves
      | _ => cases hcourse
    refine (Host.twins_callFromReply hp snapshot hwithin reply).bind fun _ _ h =>
      Act.agree_pure ?_
    refine alike_goOn h fun request _ hrequest => ?_
    subst hrequest
    cases request with
    | none => exact .releasing (.ok rfl)
    | some request => exact .hearingAgain _ _
  | hearingAgain snapshot request =>
    exact (Host.twins_secondReply hp snapshot request).bind fun _ _ h =>
      Act.agree_pure (.waits (.releasing h))
  | releasing h =>
    exact (Host.twins_endRound hp h).bind fun _ _ h => Act.agree_pure (alike_said h)
  | closing =>
    refine (Host.twins_endClose hp).bind fun _ _ h => Act.agree_pure (alike_done ?_)
    exact .of_eq .same h

theorem start_twins_setModel (hp : env.Apart view n) (model : Input) {check : Option (UrlCheck σ)}
    (hcheck : ∀ c, check = some c → ∀ parts, (c parts).Sees view)
    {h g : Host (Noted Host.Event σ)} (ht : h.Twins view n k 0 next g) (hmade : h.made = n) :
    ((Operation.setModel model check).noted.start env.noted).Ends h fun q v =>
      ((Operation.setModel model check).noted.start (env.only n).noted).Ends g fun q' v' =>
        ∀ s, q = .waits (.starting s) →
          Progress.Alike n k q q' ∧ v.Twins view n k 1 next v' := by
  refine Act.Ends.bind (Host.twins_beginStart hp model hcheck ht hmade) fun result v hv => ?_
  rw [Act.ends_pure]
  refine Act.Ends.bind hv fun result' v' hv' => ?_
  intro s hs
  cases result with
  | error e => cases hs
  | ok s' =>
    obtain ⟨hnumber, hresult, htwins⟩ := hv' s' rfl
    obtain ⟨name, m⟩ := s'
    obtain rfl : m = n := hnumber
    subst hresult
    exact ⟨.waits (.starting name), htwins⟩

theorem resume_twins_starting (hp : env.Apart view n) (name : String)
    {h g : Host (Noted Host.Event σ)} (ht : h.Twins view n k 1 1 g) :
    (resume env.noted (.starting ⟨name, n⟩)).Ends h fun q v =>
      (resume (env.only n).noted (.starting ⟨name, 0⟩)).Ends g fun q' v' =>
        q = .ended (.ok (.handle k)) →
          Progress.Alike n k q q' ∧ v.Twins view n k 1 2 v' := by
  refine Act.Ends.bind (Host.twins_endStart hp name ht) fun result v hv => ?_
  rw [Act.ends_pure]
  refine Act.Ends.bind hv fun result' v' hv' => ?_
  intro hq
  cases result with
  | error e => cases hq
  | ok j =>
    cases hq
    obtain ⟨hresult, htwins⟩ := hv' rfl
    subst hresult
    exact ⟨.ended (.ok .handle), htwins⟩

def Pending.ahead : Pending → List Handle
  | .closingEach _ _ left => left
  | _ => []

/-- Which of some handles have been passed when the sessions under them are closed. -/
def Progress.passed (ks : List Handle) : Progress → List Handle
  | .ended (.ok _) => ks
  | .ended (.error _) => []
  | .waits p => ks.take (ks.length - p.ahead.length)

/-- Whether the session under a handle is the one that is being closed among several. -/
def Progress.isAt (k : Handle) : Progress → Bool
  | .waits (.closingEach j _ _) => j = k
  | _ => false

end Operation

/-- Whether a call on the one host is the call on the other: it has come as far; or it closes all
sessions on the one host, and the session on the other. -/
inductive Call.Alike (n : Nat) (k : Handle) : Call σ → Call σ → Prop
  | own (op : Operation σ) {q q' : Operation.Progress} (h : Operation.Progress.Alike n k q q') :
    Alike n k ⟨op, q⟩ ⟨op.alone, q'⟩
  | closing (left : List Handle) :
    Alike n k ⟨.closeAll, .waits (.closingEach k n left)⟩ ⟨.close 1, .waits (.closing 1 0)⟩
  | closed {q : Operation.Progress} (hq : q.isAt k = false)
    (result : Except (Failure HostError) Operation.Answer) :
    Alike n k ⟨.closeAll, q⟩ ⟨.close 1, .ended result⟩

namespace Operation

variable {env : Surroundings σ} {view : σ → γ} {n : Nat} {k : Handle} {made next : Nat}

/-- What it comes to that the sessions under some handles are closed: when the session is among
those that have been passed it is closed on the second host, and otherwise nothing happens there. -/
def Passing (env : Surroundings σ) (view : σ → γ) (n : Nat) (k : Handle) (made next : Nat)
    (ks : List Handle) (g : Host (Noted Host.Event σ)) (q : Progress)
    (v : Host (Noted Host.Event σ)) : Prop :=
  if k ∈ q.passed ks then
    ((Operation.close 1).start (env.only n).noted).Ends g fun q' v' =>
      Call.Alike (σ := Noted Host.Event σ) n k ⟨.closeAll, q⟩ ⟨.close 1, q'⟩ ∧
        v.Twins view n k made next v'
  else q.isAt k = false ∧ v.Twins view n k made next g

theorem close_ends (env : Surroundings σ) (j : Handle) (h : Host σ) :
    ((Operation.close j).start env).Ends h fun q v =>
      v = { h with registry := (h.registry.remove j).2 } ∧
        q = match h.registry.get? j with
          | none => .ended (.ok .done)
          | some s => .waits (.closing j s.provider) := by
  refine Act.Ends.bind (Host.beginClose_ends j h) fun provider v hv => ?_
  obtain ⟨rfl, rfl⟩ := hv
  cases h.registry.get? j <;> exact ⟨rfl, rfl⟩

theorem closeNext_twins (ks : List Handle) {h g : Host (Noted Host.Event σ)}
    (ht : h.Twins view n k made next g) :
    (closeNext ks).Ends h (Passing env view n k made next ks g) := by
  refine (closeNext_ends ks h).imp fun q v htaken => ?_
  obtain ⟨hworld, hresult⟩ := close_ends (env.only n).noted 1 g
  -- without a session there is nothing to be closed on the second host either
  have hnone (hk : h.registry.get? k = none) {u : Host (Noted Host.Event σ)} {q : Progress}
      (hu : u.Twins view n k made next g) (hq : q.isAt k = false) :
      ((Operation.close 1).start (env.only n).noted).Ends g fun q' v' =>
        Call.Alike (σ := Noted Host.Event σ) n k ⟨.closeAll, q⟩ ⟨.close 1, q'⟩ ∧
          u.Twins view n k made next v' := by
    have hsolo : g.registry.get? 1 = none := by
      rw [← ht.session, hk]
      rfl
    rw [hsolo] at hresult
    rw [remove_of_none hsolo] at hworld
    unfold Act.Ends
    rw [hresult, hworld]
    exact ⟨.closed hq _, hu⟩
  cases htaken with
  | none hks =>
    unfold Passing
    split_ifs with hk
    · exact hnone (hks k hk) ht rfl
    · exact ⟨rfl, ht⟩
  | one before j left s hks hbefore hs =>
    have hpassed : Progress.passed ks (.waits (.closingEach j s.provider left)) =
        before ++ [j] := by
      have hlength : ks.length - left.length = (before ++ [j]).length := by
        rw [hks]
        simp
        omega
      show ks.take (ks.length - left.length) = before ++ [j]
      rw [hlength, hks]
      exact (congrArg _ (List.append_cons before j left)).trans (List.take_left' rfl)
    unfold Passing
    rw [hpassed]
    -- the first session that is there is this one, or this one has at most been passed
    by_cases hj : j = k
    · subst hj
      have hsolo : g.registry.get? 1 = some s.alone := by
        rw [← ht.session, hs]
        rfl
      rw [hsolo] at hresult
      rw [if_pos (by simp)]
      unfold Act.Ends
      rw [hresult, hworld, ht.provider s hs]
      exact ⟨.closing left, Host.twins_remove ht⟩
    · have hat : Progress.isAt k (.waits (.closingEach j s.provider left)) = false :=
        decide_eq_false hj
      have hlane := ht.lane (Host.lane_remove hj h)
      split_ifs with hk
      · have hk' : k ∈ before := by
          rcases List.mem_append.1 hk with hk | hk
          · exact hk
          · exact absurd (List.mem_singleton.1 hk).symm hj
        exact hnone (hbefore k hk') hlane hat
      · exact ⟨hat, hlane⟩

theorem closeRest_twins (j : Handle) (result : Except (Failure HostError) Unit)
    (left : List Handle) {h g : Host (Noted Host.Event σ)} (ht : h.Twins view n k made next g) :
    Act.Ends (do
      match ← Host.tolerate j result with
      | .error f => return .ended (.error (.fault f))
      | .ok () => closeNext left) h (Passing env view n k made next left g) := by
  have htolerate : (Host.tolerate j result).Ends h fun _ v => v = h :=
    Host.closed_tolerate (Act.closed_preserves id) j result h
  refine Act.Ends.bind htolerate ?_
  rintro tolerated v rfl
  cases tolerated with
  | error f =>
    have hpassed : k ∉ Progress.passed left (.ended (.error (.fault f))) := List.not_mem_nil
    show Passing env view n k made next left g (.ended (.error (.fault f))) v
    unfold Passing
    rw [if_neg hpassed]
    exact ⟨rfl, ht⟩
  | ok => exact closeNext_twins left ht

theorem resume_twins_closing (hp : env.Apart view n) (left : List Handle)
    {h g : Host (Noted Host.Event σ)} (ht : h.Twins view n k made next g) :
    (resume env.noted (.closingEach k n left)).Ends h fun q v =>
      (resume (env.only n).noted (.closing 1 0)).Ends g fun q' g' =>
        (∃ result, q' = .ended result) ∧ Passing env view n k made next left g' q v := by
  refine Act.Agree.bind_ends (Host.twins_endClose hp) ht fun result result' u u' _ hu => ?_
  exact (closeRest_twins k result left hu).imp fun q v hq => ⟨⟨_, rfl⟩, hq⟩

theorem resume_twins_closingOther (hp : env.Apart view n) (j : Handle) {m : Nat} (hm : m ≠ n)
    (left : List Handle) {h g : Host (Noted Host.Event σ)} (ht : h.Twins view n k made next g) :
    (resume env.noted (.closingEach j m left)).Ends h (Passing env view n k made next left g) := by
  have hclose : (Host.endClose env.noted j m).Preserves (Host.lane view n k) :=
    Host.closed_endClose (Act.closed_preserves _) (Host.onLeases_lane hp hm) j
  refine Act.Ends.bind (hclose.ends h) fun result u hu => ?_
  exact closeRest_twins j result left (ht.lane hu)

end Operation

end ChatHost
