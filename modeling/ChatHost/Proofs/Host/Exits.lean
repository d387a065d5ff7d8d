import ChatHost.Proofs.Host.Leases
import ChatHost.Proofs.Host.Parting
import ChatHost.Proofs.Host.Round

set_option autoImplicit false

/-!
How a round ends. While no other call does anything to its session, a round adds to the conversation
just what its provider and its tools have answered, and how far it comes depends on these answers
alone. Other calls may go on meanwhile, and the outside world may change.
-/

namespace ChatHost

variable {σ : Type}

/-- A step of a call: the outside world in which it is taken, and what it asks of the outside. -/
structure Stride (σ : Type) where
  world : σ
  asked : List Host.Event

/-- The ways in which a round on a session ends: its result, what it adds to the conversation, and
its steps but for the last, which gives the lease back. -/
inductive Exit (env : Surroundings σ) (s : Session) :
    Except (Failure HostError) String → List Message → List (Stride σ) → Prop
  /-- There is no answer to the first request. -/
  | unanswered (w v : σ) (e : Failure ProviderError) (hanswer : s.answer env [] v = .error e) :
      Exit env s (.error (Host.unanswered e)) [] [⟨w, [s.asks []]⟩, ⟨v, []⟩]
  /-- No tool can be called. -/
  | plain (w v : σ) (m : Message String) (hanswer : s.answer env [] v = .ok m)
      (htools : (s.tools.getD []).anyReachable = false) :
      Exit env s (.ok m.content) [⟨.assistant, m.content⟩] [⟨w, [s.asks []]⟩, ⟨v, []⟩]
  | noCall (w v u : σ) (m : Message String) (hanswer : s.answer env [] v = .ok m)
      (htools : (s.tools.getD []).anyReachable = true)
      (hcall : s.processed env m.content u = .ok .noCall) :
      Exit env s (.ok m.content) [⟨.assistant, m.content⟩]
        [⟨w, [s.asks []]⟩, ⟨v, []⟩, ⟨u, []⟩]
  | refused (w v u : σ) (m : Message String) (name message : String) (es : List Tool.Event)
      (hanswer : s.answer env [] v = .ok m) (htools : (s.tools.getD []).anyReachable = true)
      (hcall : s.processed env m.content u = .ok (.failed name message)) :
      Exit env s (.error (.known (.of .toolCallFailed message))) [⟨.assistant, m.content⟩]
        [⟨w, [s.asks []]⟩, ⟨v, []⟩, ⟨u, es.map .tool⟩]
  /-- Nothing comes of the reply. -/
  | broken (w v u : σ) (m : Message String) (f : Fault) (es : List Tool.Event)
      (hanswer : s.answer env [] v = .ok m) (htools : (s.tools.getD []).anyReachable = true)
      (hcall : s.processed env m.content u = .error f) :
      Exit env s (.error (.fault f)) [⟨.assistant, m.content⟩]
        [⟨w, [s.asks []]⟩, ⟨v, []⟩, ⟨u, es.map .tool⟩]
  /-- The call is carried out, and there is no answer to the second request. -/
  | unfinished (w v u x : σ) (m : Message String) (name output : String) (es : List Tool.Event)
      (e : Failure ProviderError) (hanswer : s.answer env [] v = .ok m)
      (htools : (s.tools.getD []).anyReachable = true)
      (hcall : s.processed env m.content u = .ok (.executed name output))
      (hagain : s.answer env [⟨.assistant, m.content⟩, ⟨.tool, output⟩] x = .error e) :
      Exit env s (.error (Host.unanswered e)) [⟨.assistant, m.content⟩, ⟨.tool, output⟩]
        [⟨w, [s.asks []]⟩, ⟨v, []⟩,
          ⟨u, es.map .tool ++ [s.asks [⟨.assistant, m.content⟩, ⟨.tool, output⟩]]⟩, ⟨x, []⟩]
  | finished (w v u x : σ) (m last : Message String) (name output : String) (es : List Tool.Event)
      (hanswer : s.answer env [] v = .ok m) (htools : (s.tools.getD []).anyReachable = true)
      (hcall : s.processed env m.content u = .ok (.executed name output))
      (hagain : s.answer env [⟨.assistant, m.content⟩, ⟨.tool, output⟩] x = .ok last) :
      Exit env s (.ok last.content)
        [⟨.assistant, m.content⟩, ⟨.tool, output⟩, ⟨.assistant, last.content⟩]
        [⟨w, [s.asks []]⟩, ⟨v, []⟩,
          ⟨u, es.map .tool ++ [s.asks [⟨.assistant, m.content⟩, ⟨.tool, output⟩]]⟩, ⟨x, []⟩]

/-- How far a round on a session has come: what it waits for, what it has added to the conversation,
and its steps. -/
inductive Reached (env : Surroundings σ) (s : Session) (k : Handle) :
    Operation.Progress → List Message → List (Stride σ) → Prop
  | hearing (w : σ) : Reached env s k (.waits (.hearing (s.round k))) [] [⟨w, [s.asks []]⟩]
  | scanning (w v : σ) (m : Message String) (hanswer : s.answer env [] v = .ok m)
      (htools : (s.tools.getD []).anyReachable = true) :
      Reached env s k (.waits (.scanning (s.round k) m.content)) [⟨.assistant, m.content⟩]
        [⟨w, [s.asks []]⟩, ⟨v, []⟩]
  | hearingAgain (w v u : σ) (m : Message String) (name output : String) (es : List Tool.Event)
      (hanswer : s.answer env [] v = .ok m) (htools : (s.tools.getD []).anyReachable = true)
      (hcall : s.processed env m.content u = .ok (.executed name output)) :
      Reached env s k
        (.waits (.hearingAgain (s.round k) (s.request [⟨.assistant, m.content⟩, ⟨.tool, output⟩])))
        [⟨.assistant, m.content⟩, ⟨.tool, output⟩]
        [⟨w, [s.asks []]⟩, ⟨v, []⟩,
          ⟨u, es.map .tool ++ [s.asks [⟨.assistant, m.content⟩, ⟨.tool, output⟩]]⟩]
  | releasing {result : Except (Failure HostError) String} {said : List Message}
      {strides : List (Stride σ)} (h : Exit env s result said strides) :
      Reached env s k (.waits (.releasing s.provider result)) said strides
  | ended {result : Except (Failure HostError) String} {said : List Message}
      {strides : List (Stride σ)} (w : σ) (h : Exit env s result said strides) :
      Reached env s k (.ended (result.map .text)) said (strides ++ [⟨w, []⟩])

theorem Exit.length_le {env : Surroundings σ} {s : Session}
    {result : Except (Failure HostError) String} {said : List Message} {strides : List (Stride σ)}
    (h : Exit env s result said strides) : strides.length ≤ 4 := by
  cases h <;> simp

namespace Reached

variable {env : Surroundings σ} {s : Session} {k : Handle} {q : Operation.Progress}
  {p : Operation.Pending} {said : List Message} {strides : List (Stride σ)}
  {h : Host (Noted Host.Event σ)}

theorem length_le (hr : Reached env s k (.waits p) said strides) : strides.length ≤ 4 := by
  cases hr with
  | hearing | scanning | hearingAgain => simp
  | releasing hexit => exact hexit.length_le

theorem exit {result : Except (Failure HostError) Operation.Answer}
    (hr : Reached env s k (.ended result) said strides) :
    ∃ reply taken last, Exit env s reply said taken ∧ result = reply.map .text ∧
      strides = taken ++ [⟨last, []⟩] := by
  cases hr with
  | ended w hexit => exact ⟨_, _, w, hexit, rfl, rfl⟩

def Goes (env : Surroundings σ) (s : Session) (k : Handle) (strides : List (Stride σ))
    (h : Host (Noted Host.Event σ)) (q : Operation.Progress) (v : Host (Noted Host.Event σ)) :
    Prop :=
  ∃ said es, v.registry.get? k = some (s.saying said) ∧ v.world.notes = h.world.notes ++ es ∧
    Reached env s k q said (strides ++ [⟨h.world.world, es⟩])

theorem hearing_goes (w : σ) (hs : h.registry.get? k = some (s.saying [])) :
    (Operation.resume env.noted (.hearing (s.round k))).Ends h
      (Goes env s k [⟨w, [s.asks []]⟩] h) := by
  have hreply : (Host.firstReply env.noted (s.round k)).Ends h _ := Host.firstReply_noted hs
  refine Act.Ends.bind hreply ?_
  rintro result v ⟨hnotes, hresult⟩
  rw [← List.append_nil h.world.notes] at hnotes
  cases hanswer : s.answer env [] h.world.world with
  | error e =>
    rw [hanswer] at hresult
    obtain ⟨rfl, hv⟩ := hresult
    exact ⟨[], [], hv, hnotes, .releasing (.unanswered w _ e hanswer)⟩
  | ok m =>
    rw [hanswer] at hresult
    obtain ⟨rfl, hv⟩ := hresult
    refine ⟨_, [], hv, hnotes, ?_⟩
    cases htools : (s.tools.getD []).anyReachable with
    | false =>
      have hscans : (s.round k).scans = false := htools
      simp only [Operation.goOn, hscans]
      exact .releasing (.plain w _ m hanswer htools)
    | true =>
      have hscans : (s.round k).scans = true := htools
      simp only [Operation.goOn, hscans]
      exact .scanning w _ m hanswer htools

theorem scanning_goes {w u : σ} {m : Message String} (hanswer : s.answer env [] u = .ok m)
    (htools : (s.tools.getD []).anyReachable = true)
    (hs : h.registry.get? k = some (s.saying [⟨.assistant, m.content⟩])) :
    (Operation.resume env.noted (.scanning (s.round k) m.content)).Ends h
      (Goes env s k [⟨w, [s.asks []]⟩, ⟨u, []⟩] h) := by
  have hprocess : (Host.callFromReply env.noted (s.round k) m.content).Ends h _ :=
    Host.callFromReply_noted hs m.content
  refine Act.Ends.bind hprocess ?_
  rintro result v ⟨es, hresult⟩
  cases hcall : s.processed env m.content h.world.world with
  | error f =>
    rw [hcall] at hresult
    obtain ⟨rfl, hv, hnotes⟩ := hresult
    exact ⟨_, _, hv, hnotes, .releasing (.broken w u _ m f es hanswer htools hcall)⟩
  | ok outcome =>
    rw [hcall] at hresult
    cases outcome with
    | noCall =>
      obtain ⟨rfl, hv, hnotes⟩ := hresult
      rw [← List.append_nil h.world.notes] at hnotes
      exact ⟨_, [], hv, hnotes, .releasing (.noCall w u _ m hanswer htools hcall)⟩
    | failed name message =>
      obtain ⟨rfl, hv, hnotes⟩ := hresult
      exact ⟨_, _, hv, hnotes, .releasing (.refused w u _ m name message es hanswer htools hcall)⟩
    | executed name output =>
      obtain ⟨rfl, hv, hnotes⟩ := hresult
      exact ⟨_, _, hv, hnotes, .hearingAgain w u _ m name output es hanswer htools hcall⟩

theorem hearingAgain_goes {w u x : σ} {m : Message String} {name output : String}
    {es : List Tool.Event}
    (hanswer : s.answer env [] u = .ok m) (htools : (s.tools.getD []).anyReachable = true)
    (hcall : s.processed env m.content x = .ok (.executed name output))
    (hs : h.registry.get? k = some (s.saying [⟨.assistant, m.content⟩, ⟨.tool, output⟩])) :
    (Operation.resume env.noted (.hearingAgain (s.round k)
      (s.request [⟨.assistant, m.content⟩, ⟨.tool, output⟩]))).Ends h
      (Goes env s k [⟨w, [s.asks []]⟩, ⟨u, []⟩,
        ⟨x, es.map .tool ++ [s.asks [⟨.assistant, m.content⟩, ⟨.tool, output⟩]]⟩] h) := by
  have hreply : (Host.secondReply env.noted (s.round k)
      (s.request [⟨.assistant, m.content⟩, ⟨.tool, output⟩])).Ends h _ :=
    Host.secondReply_noted hs _
  refine Act.Ends.bind hreply ?_
  rintro result v ⟨hnotes, hresult⟩
  rw [← List.append_nil h.world.notes] at hnotes
  cases hagain : s.answer env [⟨.assistant, m.content⟩, ⟨.tool, output⟩] h.world.world with
  | error e =>
    rw [hagain] at hresult
    obtain ⟨rfl, hv⟩ := hresult
    exact ⟨_, [], hv, hnotes,
      .releasing (.unfinished w u x _ m name output es e hanswer htools hcall hagain)⟩
  | ok last =>
    rw [hagain] at hresult
    obtain ⟨rfl, hv⟩ := hresult
    exact ⟨_, [], hv, hnotes,
      .releasing (.finished w u x _ m last name output es hanswer htools hcall hagain)⟩

theorem releasing_goes {result : Except (Failure HostError) String}
    (hexit : Exit env s result said strides) (hs : h.registry.get? k = some (s.saying said))
    (hopen : (h.leaseOf s.provider).closed = false) :
    (Operation.resume env.noted (.releasing s.provider result)).Ends h
      (Goes env s k strides h) := by
  have hend : (Host.endRound env.noted s.provider result).Ends h _ :=
    Host.endRound_noted hopen result
  refine Act.Ends.bind hend ?_
  rintro _ v ⟨rfl, hregistry, hworld⟩
  refine ⟨said, [], hregistry ▸ hs, ?_, .ended _ hexit⟩
  rw [List.append_nil]
  exact congrArg Noted.notes hworld

/-- Every step of a round leads on towards one of its ends. -/
theorem step (hr : Reached env s k (.waits p) said strides)
    (hs : h.registry.get? k = some (s.saying said))
    (hopen : (h.leaseOf s.provider).closed = false) :
    (Operation.resume env.noted p).Ends h (Goes env s k strides h) := by
  cases hr with
  | hearing w => exact hearing_goes w hs
  | scanning w u m hanswer htools => exact scanning_goes hanswer htools hs
  | hearingAgain w u x m name output es hanswer htools hcall =>
    exact hearingAgain_goes hanswer htools hcall hs
  | releasing hexit => exact releasing_goes hexit hs hopen

end Reached

/-- Whether a move is the next step of the call of the given number. -/
def Move.resumes (number : Nat) : Move σ → Bool
  | .resume i => i = number
  | .ask _ | .outside _ => false

theorem Move.resumes_iff {number : Nat} {m : Move σ} :
    m.resumes number = true ↔ m = .resume number := by
  cases m <;> simp [resumes]

def Call.waits : Call σ → Bool
  | ⟨_, .waits _⟩ => true
  | ⟨_, .ended _⟩ => false

namespace Traffic

/-- What a move finds of the outside, and what is asked in it. -/
def stride (env : Surroundings σ) (t : Traffic (Noted Host.Event σ)) (m : Move σ) : Stride σ :=
  ⟨t.host.world.world, (t.step env.noted m.noted).host.world.notes.drop t.host.world.notes.length⟩

def strides (env : Surroundings σ) (number : Nat) :
    Traffic (Noted Host.Event σ) → List (Move σ) → List (Stride σ)
  | _, [] => []
  | t, m :: moves =>
    let later := strides env number (t.step env.noted m.noted) moves
    if m.resumes number && t.calls[number]?.any Call.waits then t.stride env m :: later else later

/-- Whether no other call does anything to what is under a handle, while the call of the given
number goes on. -/
def Undisturbed (env : Surroundings σ) (k : Handle) (number : Nat) :
    Traffic (Noted Host.Event σ) → List (Move σ) → Prop
  | _, [] => True
  | t, m :: moves =>
    (m.resumes number = false →
      (t.step env.noted m.noted).host.registry.get? k = t.host.registry.get? k) ∧
    Undisturbed env k number (t.step env.noted m.noted) moves

variable {env : Surroundings σ} {t : Traffic (Noted Host.Event σ)} {s : Session} {k : Handle}
  {number : Nat} {said : List Message} {taken : List (Stride σ)}

/-- As long as a session is registered, its provider has not been closed. -/
theorem Booked.open {phase : Nat → Phase} (hb : Booked phase t)
    (hs : t.host.registry.get? k = some s) : (t.host.leaseOf s.provider).closed = false := by
  have hbound : phase s.provider = .bound k :=
    (hb.bindings k s.provider).1 (congrArg (Option.map Session.provider) hs)
  have hfit := hb.fits s.provider
  rw [hbound] at hfit
  exact congrArg (fun standing => standing.lease.closed) hfit

theorem booked_next (hb : ∃ phase, Booked phase t) (m : Move σ) :
    ∃ phase, Booked phase (t.step env.noted m.noted) := by
  obtain ⟨phase, hb⟩ := hb
  obtain ⟨phase', -, hb'⟩ := hb.step env m
  exact ⟨phase', hb'⟩

theorem calls_of_other {m : Move σ} (hm : m.resumes number = false)
    (hlt : number < t.calls.length) :
    (t.step env.noted m.noted).calls[number]? = t.calls[number]? := by
  cases m with
  | ask op => exact List.getElem?_append_left hlt
  | resume i =>
    have hi : i ≠ number := by simpa [Move.resumes] using hm
    exact step_resume_of_ne env.noted t hi
  | outside change => rfl

/-- The invariant of a round: the call has come as far as its steps, and they have left of the
session what they have added to it. -/
structure OnRound (env : Surroundings σ) (s : Session) (k : Handle) (number : Nat)
    (t : Traffic (Noted Host.Event σ)) (said : List Message) (taken : List (Stride σ)) : Prop where
  call : ∃ q, t.calls[number]? = some ⟨.readResponse k, q⟩ ∧ Reached env s k q said taken
  session : t.host.registry.get? k = some (s.saying said)
  booked : ∃ phase, Booked phase t

theorem onRound_asked (hb : ∃ phase, Booked phase t) (hs : t.host.registry.get? k = some s) :
    OnRound env s k t.calls.length (t.step env.noted (Move.ask (.readResponse k)).noted) []
      [t.stride env (.ask (.readResponse k))] := by
  have hstart : (Operation.start env.noted (.readResponse k)).Ends t.host fun q v =>
      q = .waits (.hearing (s.round k)) ∧ v.registry = t.host.registry ∧
        v.world.notes = t.host.world.notes ++ [s.asks []] := by
    refine Act.Ends.bind (Host.beginRound_noted hs) ?_
    rintro result v ⟨rfl, hv⟩
    exact ⟨rfl, hv⟩
  obtain ⟨hq, hregistry, hnotes⟩ := hstart
  have hstride : t.stride env (.ask (.readResponse k)) = ⟨t.host.world.world, [s.asks []]⟩ := by
    have hdrop := congrArg (List.drop t.host.world.notes.length) hnotes
    rw [List.drop_left] at hdrop
    exact congrArg (Stride.mk t.host.world.world) hdrop
  refine ⟨⟨_, List.getElem?_concat_length, ?_⟩, ?_, ?_⟩
  · rw [hstride]
    exact hq ▸ .hearing _
  · rw [s.saying_nil]
    exact (congrArg (·.get? k) hregistry).trans hs
  · exact booked_next hb _

theorem OnRound.other (h : OnRound env s k number t said taken) {m : Move σ}
    (hm : m.resumes number = false)
    (hkept : (t.step env.noted m.noted).host.registry.get? k = t.host.registry.get? k) :
    OnRound env s k number (t.step env.noted m.noted) said taken := by
  obtain ⟨q, hc, hr⟩ := h.call
  have hlt : number < t.calls.length := (List.getElem?_eq_some_iff.1 hc).1
  exact ⟨⟨q, (calls_of_other hm hlt).trans hc, hr⟩, hkept.trans h.session, booked_next h.booked m⟩

theorem OnRound.resume (h : OnRound env s k number t said taken) {p : Operation.Pending}
    (hc : t.calls[number]? = some ⟨.readResponse k, .waits p⟩) :
    ∃ said', OnRound env s k number (t.step env.noted (Move.resume (σ := σ) number).noted) said'
      (taken ++ [t.stride env (.resume number)]) := by
  obtain ⟨q, hq, hr⟩ := h.call
  cases hc.symm.trans hq
  obtain ⟨phase, hb⟩ := h.booked
  have hopen := hb.open h.session
  obtain ⟨said', es, hs, hnotes, hreached⟩ := hr.step h.session hopen
  have hstep : t.step env.noted (Move.resume (σ := σ) number).noted = _ := step_resume_waits hc
  have hstride : t.stride env (.resume number) = ⟨t.host.world.world, es⟩ := by
    unfold stride
    rw [hstep, hnotes, List.drop_left]
  refine ⟨said', ⟨_, ?_, hstride ▸ hreached⟩, ?_, booked_next h.booked _⟩
  · rw [hstep]
    exact List.getElem?_set_self (List.getElem?_eq_some_iff.1 hc).1
  · rw [hstep]
    exact hs

theorem OnRound.run (h : OnRound env s k number t said taken) {moves : List (Move σ)}
    (hmoves : t.Undisturbed env k number moves) :
    ∃ said', OnRound env s k number (t.run env.noted (moves.map Move.noted)) said'
      (taken ++ t.strides env number moves) := by
  -- on the moves; only the call's own steps lead from one stage of the round to another
  induction moves generalizing t said taken with
  | nil => exact ⟨said, by simpa [Traffic.run, strides] using h⟩
  | cons m moves ih =>
    obtain ⟨hkept, hlater⟩ := hmoves
    cases hm : m.resumes number with
    | false =>
      have hstrides : t.strides env number (m :: moves) =
          (t.step env.noted m.noted).strides env number moves := by
        simp [strides, hm]
      rw [hstrides]
      exact ih (h.other hm (hkept hm)) hlater
    | true =>
      obtain rfl := Move.resumes_iff.1 hm
      obtain ⟨q, hc, hr⟩ := h.call
      cases q with
      | ended result =>
        have hstep : t.step env.noted (Move.resume (σ := σ) number).noted = t :=
          step_resume_ended hc
        have hstrides : t.strides env number (.resume number :: moves) =
            t.strides env number moves := by
          simp [strides, hc, Call.waits, hstep]
        have hrun : t.run env.noted ((Move.resume number :: moves).map Move.noted) =
            (t.step env.noted (Move.resume (σ := σ) number).noted).run env.noted
              (moves.map Move.noted) := rfl
        rw [hstrides, hrun, hstep]
        exact ih h (hstep ▸ hlater)
      | waits p =>
        obtain ⟨said', h'⟩ := h.resume hc
        have hstrides : t.strides env number (.resume number :: moves) =
            t.stride env (.resume number) ::
              (t.step env.noted (Move.resume (σ := σ) number).noted).strides env number moves := by
          simp [strides, hc, Call.waits, hm]
        obtain ⟨last, hlast⟩ := ih h' hlater
        rw [hstrides]
        rw [List.append_assoc, List.singleton_append] at hlast
        exact ⟨last, hlast⟩

/-- A call that waits in the end has waited whenever it was to go on. -/
theorem strides_length {op : Operation (Noted Host.Event σ)} {p : Operation.Pending}
    {moves : List (Move σ)} (hlt : number < t.calls.length)
    (hc : (t.run env.noted (moves.map Move.noted)).calls[number]? = some ⟨op, .waits p⟩) :
    (t.strides env number moves).length = moves.countP (·.resumes number) := by
  induction moves generalizing t with
  | nil => rfl
  | cons m moves ih =>
    have hlt' : number < (t.step env.noted m.noted).calls.length :=
      Nat.lt_of_lt_of_le hlt (length_step ..)
    have hrest := ih hlt' hc
    cases hm : m.resumes number with
    | false => simpa [strides, hm] using hrest
    | true =>
      obtain rfl := Move.resumes_iff.1 hm
      cases hcall : t.calls[number] with
      | mk operation q =>
        have hget : t.calls[number]? = some ⟨operation, q⟩ := by
          rw [List.getElem?_eq_getElem hlt, hcall]
        cases q with
        | ended result => cases (run_of_ended env.noted hget _).symm.trans hc
        | waits p' =>
          have hwaits : t.calls[number]?.any Call.waits = true := by
            rw [hget]
            rfl
          simpa [strides, hm, hwaits] using hrest

/-- A round that begins on a session, while no other call does anything to the session, asks for a
completion of the conversation as it is, with the session's options. It ends after four more of its
steps at the latest, in one of its ways, and leaves the session as it was but for what it adds to
the conversation. -/
theorem exit_of_readResponse (env : Surroundings σ) (w : σ) (before after : List (Move σ))
    {k : Handle} {s : Session} (hs : (observed env w before).host.registry.get? k = some s) :
    let t := observed env w before
    let begun := observed env w (before ++ [.ask (.readResponse k)])
    let t' := observed env w (before ++ .ask (.readResponse k) :: after)
    begun.Undisturbed env k t.calls.length after →
      (4 ≤ after.countP (·.resumes t.calls.length) →
        ∃ result, t'.calls[t.calls.length]? = some ⟨.readResponse k, .ended result⟩) ∧
      ∀ result, t'.calls[t.calls.length]? = some ⟨.readResponse k, .ended result⟩ →
        ∃ reply said strides last, Exit env s reply said strides ∧ result = reply.map .text ∧
          t.stride env (.ask (.readResponse k)) :: begun.strides env t.calls.length after =
            strides ++ [⟨last, []⟩] ∧
          t'.host.registry.get? k = some (s.saying said) := by
  intro t begun t' hmoves
  have hbegun : begun = t.step env.noted (Move.ask (.readResponse k)).noted :=
    observed_append env w before [.ask (.readResponse k)]
  have hend : t' = begun.run env.noted (after.map Move.noted) := by
    have hsplit := observed_append env w (before ++ [.ask (.readResponse k)]) after
    rwa [List.append_assoc] at hsplit
  obtain ⟨phase, -, hb⟩ := (booked_fresh w).run env before
  have hround : OnRound env s k t.calls.length begun [] [t.stride env (.ask (.readResponse k))] :=
    hbegun ▸ onRound_asked ⟨phase, hb⟩ hs
  obtain ⟨said, hlast⟩ := hround.run hmoves
  rw [← hend] at hlast
  obtain ⟨q, hq, hreached⟩ := hlast.call
  refine ⟨fun hcount => ?_, fun result hresult => ?_⟩
  · cases q with
    | ended result => exact ⟨result, hq⟩
    | waits p =>
      -- a round that still waits has taken three steps at most after its first
      obtain ⟨_, hasked, -⟩ := hround.call
      have hlt : t.calls.length < begun.calls.length := (List.getElem?_eq_some_iff.1 hasked).1
      have hlength := hreached.length_le
      rw [hend] at hq
      rw [List.singleton_append, List.length_cons, strides_length hlt hq] at hlength
      omega
  · cases hq.symm.trans hresult
    obtain ⟨reply, strides, last, hexit, hresult, hstrides⟩ := hreached.exit
    exact ⟨reply, said, strides, last, hexit, hresult, hstrides, hlast.session⟩

/-- What is said to another session does nothing to this one. -/
theorem kept_of_prompt {j : Handle} (hj : j ≠ k) (text : Input) (t : Traffic (Noted Host.Event σ)) :
    (t.step env.noted (Move.ask (.prompt j text)).noted).host.registry.get? k =
      t.host.registry.get? k := by
  have hchange (f : Session → Session) :
      (Host.change j f).Preserves fun h : Host (Noted Host.Event σ) => h.registry.get? k := by
    intro h
    obtain ⟨r, hv, hr⟩ := Host.change_frame j f h
    exact (congrArg (fun v => v.registry.get? k) hv).trans (hr k hj.symm)
  exact Host.closed_prompt (Act.closed_preserves _) ⟨fun _ _ => rfl, fun _ => hchange _⟩ text t.host

/-- A world in which the model of the first session calls a tool and then says what came of it. -/
def adding : Scripted.HostWorld where
  scripts := [(0, { replies := [
    .message ⟨.user, "\x7b\"name\": \"add\", \"arguments\": \x7b\x7d\x7d"⟩,
    .message ⟨.tool, "done"⟩] })]
  tools := {
    endpoints := [("http://tools.test/sse", .offers [.obj [("name", .str "add")]])]
    handlers := [("add", .echoes)] }

/-- The moves in which two sessions are started and the first one is given a tool. -/
def equipping : List (Move Scripted.HostWorld) :=
  [.ask (.setModel (.text "gemma-2-2b-it") none), .resume 0,
    .ask (.setModel (.text "gemma-2-2b-it") none), .resume 1,
    .ask (.setOptions 1 (.given { toolEndpoints := some ["http://tools.test/sse"] })), .resume 2]

theorem exit_of_adding :
    let env := Scripted.HostWorld.surroundings .standard {} ⟨2025, 1, 31⟩
    let after := [.resume 3, .ask (.prompt 2 (.text "Hello")), .resume 3, .resume 3, .resume 3]
    ∃ s reply output last strides, (observed env adding equipping).host.registry.get? 1 = some s ∧
      Exit env s (.ok last) [⟨.assistant, reply⟩, ⟨.tool, output⟩, ⟨.assistant, last⟩] strides ∧
      (observed env adding (equipping ++ .ask (.readResponse 1) :: after)).host.registry.get? 1 =
        some (s.saying [⟨.assistant, reply⟩, ⟨.tool, output⟩, ⟨.assistant, last⟩]) := by
  intro env after
  have hnumber : (observed env adding equipping).calls.length = 3 := by
    decide +kernel
  have hbefore : ((observed env adding equipping).host.registry.get? 1).map
      (fun s => s.messages.map Message.role) = some [.system] := by
    decide +kernel
  have hafter :
      ((observed env adding (equipping ++ .ask (.readResponse 1) :: after)).host.registry.get?
      1).map (fun s => s.messages.map Message.role) =
        some [.system, .assistant, .tool, .assistant] := by
    decide +kernel
  obtain ⟨s, hs, hroles⟩ := Option.map_eq_some_iff.1 hbefore
  have hmoves : (observed env adding (equipping ++ [.ask (.readResponse 1)])).Undisturbed env 1 3
      after :=
    ⟨nofun, fun _ => kept_of_prompt (by decide) _ _, nofun, nofun, nofun, trivial⟩
  rw [← hnumber] at hmoves
  obtain ⟨hends, hexit⟩ := exit_of_readResponse env adding equipping after hs hmoves
  obtain ⟨result, hresult⟩ := hends (by rw [hnumber]; decide)
  obtain ⟨reply, said, strides, last, hway, -, -, hsession⟩ := hexit result hresult
  rw [hsession, Option.map_some] at hafter
  have hsaid : said.map Message.role = [.assistant, .tool, .assistant] := by
    simpa [Session.saying, hroles] using hafter
  -- only one way to end says three things
  have hended := hway
  cases hway with
  | finished => exact ⟨s, _, _, _, _, hs, hended, hsession⟩
  | _ => simp at hsaid

end Traffic

end ChatHost
