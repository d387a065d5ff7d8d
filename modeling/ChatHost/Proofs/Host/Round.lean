import ChatHost.Proofs.Host.Telling
import ChatHost.Proofs.Tool.Noted

set_option autoImplicit false

/-!
The steps of a round on a session that stays where it is. The round asks the session's provider,
hears its answers and calls tools in turn; each step says what it comes to, what it leaves of the
session, and what it has asked of the outside.
-/

namespace ChatHost

variable {σ : Type}

namespace Session

def saying (s : Session) (said : List Message) : Session :=
  { s with messages := s.messages ++ said }

def request (s : Session) (said : List Message) : Request :=
  ⟨s.messages ++ said, s.options.temperature, s.options.topP⟩

def asks (s : Session) (said : List Message) : Host.Event :=
  .provider s.provider (.ask (s.request said))

def answer (env : Surroundings σ) (s : Session) (said : List Message) (w : σ) :
    Except (Failure ProviderError) (Message String) :=
  (((env.provider s.provider).answer (s.request said)).run w).result

/-- What becomes of a reply that is scanned for a function call. -/
def processed (env : Surroundings σ) (s : Session) (reply : String) (w : σ) :
    Except Fault Tool.CallResult :=
  ((Tool.processText env.validator env.transport (s.tools.getD []) reply).run w).result

def round (s : Session) (k : Handle) : Round :=
  ⟨k, s.provider, s.snapshot⟩

theorem saying_nil (s : Session) : s.saying [] = s := by
  simp [saying]

theorem addMessage_saying (s : Session) (said : List Message) (m : Message) :
    (s.saying said).addMessage m = s.saying (said ++ [m]) := by
  simp [saying, addMessage]

theorem request_nil (s : Session) : s.request [] = s.snapshot.request := by
  simp [request, Snapshot.request, snapshot]

end Session

namespace Host

variable {env : Surroundings σ} {k : Handle} {s : Session} {said : List Message}
  {h : Host (Noted Host.Event σ)}

theorem beginRound_noted (hs : h.registry.get? k = some s) :
    (beginRound env.noted k).Ends h fun result v => result = .ok (s.round k) ∧
      v.registry = h.registry ∧ v.world.notes = h.world.notes ++ [s.asks []] := by
  refine Act.Ends.andThen (look_present hs _) ?_ ?_
  · rintro x v ⟨hx, rfl⟩
    cases hx
    refine ⟨rfl, rfl, ?_⟩
    rw [Session.asks, Session.request_nil]
    rfl
  · rintro e v ⟨he, -⟩
    cases he

theorem addMessage_noted (hs : h.registry.get? k = some (s.saying said)) (m : Message) :
    (addMessage k m).Ends h fun result v => result = .ok () ∧
      v.registry.get? k = some (s.saying (said ++ [m])) ∧ v.world = h.world := by
  refine (change_present hs _).imp ?_
  rintro result v ⟨rfl, rfl⟩
  refine ⟨rfl, ?_, rfl⟩
  rw [Registry.get?_store, if_pos rfl, Session.addMessage_saying]

theorem secondReply_noted (hs : h.registry.get? k = some (s.saying said)) (asked : List Message) :
    (secondReply env.noted (s.round k) (s.request asked)).Ends h fun result v =>
      v.world.notes = h.world.notes ∧
        match s.answer env asked h.world.world with
        | .ok m => result = .ok m.content ∧
            v.registry.get? k = some (s.saying (said ++ [⟨.assistant, m.content⟩]))
        | .error e => result = .error (unanswered e) ∧
            v.registry.get? k = some (s.saying said) := by
  have hhear : (hear env.noted s.provider (s.request asked)).Ends h fun result v =>
      v.registry = h.registry ∧ v.world.notes = h.world.notes ∧
        result = match s.answer env asked h.world.world with
          | .ok m => .ok ⟨.assistant, m.content⟩
          | .error e => .error (unanswered e) := by
    apply Act.Ends.imp (hear_ends s.provider (s.request asked) h)
    rintro result v ⟨hregistry, hworld, hresult⟩
    have hnotes := congrArg Noted.notes hworld
    exact ⟨hregistry, hnotes, hresult⟩
  cases hanswer : s.answer env asked h.world.world with
  | error e =>
    rw [hanswer] at hhear
    refine Act.Ends.andThen hhear ?_ ?_
    · rintro reply v ⟨-, -, hreply⟩
      cases hreply
    · rintro e' v ⟨hregistry, hnotes, he⟩
      cases he
      exact ⟨hnotes, rfl, hregistry ▸ hs⟩
  | ok m =>
    rw [hanswer] at hhear
    refine Act.Ends.andThen hhear ?_ ?_
    · rintro reply v ⟨hregistry, hnotes, hreply⟩
      cases hreply
      rw [← hregistry] at hs
      refine Act.Ends.andThen (addMessage_noted hs _) ?_ ?_
      · rintro _ u ⟨-, hu, hworld⟩
        exact ⟨hworld ▸ hnotes, rfl, hu⟩
      · rintro e u ⟨he, -⟩
        cases he
    · rintro e v ⟨-, -, he⟩
      cases he

theorem firstReply_noted (hs : h.registry.get? k = some (s.saying [])) :
    (firstReply env.noted (s.round k)).Ends h fun result v =>
      v.world.notes = h.world.notes ∧
        match s.answer env [] h.world.world with
        | .ok m => result = .ok m.content ∧
            v.registry.get? k = some (s.saying [⟨.assistant, m.content⟩])
        | .error e => result = .error (unanswered e) ∧
            v.registry.get? k = some (s.saying []) := by
  have hreply : (secondReply env.noted (s.round k) (s.request [])).Ends h _ :=
    secondReply_noted hs []
  rwa [Session.request_nil] at hreply

theorem takeOutput_noted (hs : h.registry.get? k = some (s.saying said)) (output : String) :
    (takeOutput env.noted (s.round k) output).Ends h fun result v =>
      result = .ok (s.request (said ++ [⟨.tool, output⟩])) ∧
        v.registry.get? k = some (s.saying (said ++ [⟨.tool, output⟩])) ∧
        v.world.notes = h.world.notes ++ [s.asks (said ++ [⟨.tool, output⟩])] := by
  refine Act.Ends.andThen (addMessage_noted hs _) ?_ ?_
  · rintro _ v ⟨-, hv, hworld⟩
    refine Act.Ends.andThen (look_present hv _) ?_ ?_
    · rintro messages u ⟨hmessages, rfl⟩
      cases hmessages
      refine ⟨rfl, hv, ?_⟩
      rw [← hworld]
      rfl
    · rintro e u ⟨he, -⟩
      cases he
  · rintro e v ⟨he, -⟩
    cases he

/-- The function call in a reply, where there is one, is carried out before its output is taken into
the conversation. -/
theorem callFromReply_noted (hs : h.registry.get? k = some (s.saying said)) (reply : String) :
    (callFromReply env.noted (s.round k) reply).Ends h fun result v =>
      ∃ es : List Tool.Event,
        match s.processed env reply h.world.world with
        | .error f => result = .error (.fault f) ∧ v.registry.get? k = some (s.saying said) ∧
            v.world.notes = h.world.notes ++ es.map .tool
        | .ok .noCall => result = .ok none ∧ v.registry.get? k = some (s.saying said) ∧
            v.world.notes = h.world.notes
        | .ok (.failed _ message) => result = .error (.known (.of .toolCallFailed message)) ∧
            v.registry.get? k = some (s.saying said) ∧
            v.world.notes = h.world.notes ++ es.map .tool
        | .ok (.executed _ output) =>
            result = .ok (some (s.request (said ++ [⟨.tool, output⟩]))) ∧
            v.registry.get? k = some (s.saying (said ++ [⟨.tool, output⟩])) ∧
            v.world.notes =
              h.world.notes ++ (es.map .tool ++ [s.asks (said ++ [⟨.tool, output⟩])]) := by
  have hprocess : (within (Tool.processText env.validator env.noted.transport
      (s.tools.getD []) reply)).Ends h
      fun result v => v.registry = h.registry ∧ result = s.processed env reply h.world.world ∧
        ∃ es : List Tool.Event, v.world.notes = h.world.notes ++ es.map .tool ∧
          (result = .ok .noCall → es = []) := by
    have hnoted := Tool.processText_noted env.validator env.transport Host.Event.tool
      (s.tools.getD []) reply h.world
    exact (Act.ends_zoom _ _ _ _ _).2 (hnoted.imp fun result v hv => ⟨rfl, hv⟩)
  refine Act.Ends.bind hprocess ?_
  rintro result v ⟨hregistry, hresult, es, hnotes, hnone⟩
  rw [← hresult]
  rw [← hregistry] at hs
  rcases result with f | _ | ⟨name, output⟩ | ⟨name, message⟩
  · exact ⟨es, rfl, hs, hnotes⟩
  · have hsame : v.world.notes = h.world.notes := by simpa [hnone rfl] using hnotes
    exact ⟨es, rfl, hs, hsame⟩
  · refine Act.Ends.andThen (takeOutput_noted hs output) ?_ ?_
    · rintro request u ⟨hrequest, hu, hasked⟩
      cases hrequest
      rw [hnotes, List.append_assoc] at hasked
      exact ⟨es, rfl, hu, hasked⟩
    · rintro e u ⟨he, -⟩
      cases he
  · exact ⟨es, rfl, hs, hnotes⟩

theorem leaseOf_set (n : Nat) (l : Lease) (h : Host (Noted Host.Event σ)) :
    (leasePlace n).get ((leasePlace n).set l h) = l := by
  simp [leasePlace, leaseOf, OrderedMap.get?_put]

/-- A round gives its lease back without more, as long as the provider has not been closed. -/
theorem endRound_noted {n : Nat} (hopen : (h.leaseOf n).closed = false)
    (result : Except (Failure HostError) String) :
    (endRound env.noted n result).Ends h fun ended v =>
      ended = result ∧ v.registry = h.registry ∧ v.world = h.world := by
  have hrelease : ((leasePlace n).release (shutdown env.noted n)).Ends h fun released v =>
      released = .ok () ∧ v.registry = h.registry ∧ v.world = h.world := by
    refine Act.Ends.bind (p := fun _ (v : Host (Noted Host.Event σ)) =>
      v = (leasePlace n).set (h.leaseOf n).release h) rfl ?_
    rintro _ v rfl
    refine Act.Ends.bind (p := fun lease (v : Host (Noted Host.Event σ)) =>
      lease = (h.leaseOf n).release ∧ v.registry = h.registry ∧ v.world = h.world) ?_ ?_
    · exact ⟨leaseOf_set n _ h, rfl, rfl⟩
    · rintro lease v ⟨rfl, hregistry, hworld⟩
      have hdue : (h.leaseOf n).release.isDue = false := by
        simp [Lease.isDue, Lease.release, hopen]
      rw [hdue]
      exact ⟨rfl, hregistry, hworld⟩
  refine Act.Ends.bind hrelease ?_
  rintro _ v ⟨rfl, hv⟩
  exact ⟨rfl, hv⟩

end Host

namespace Operation

variable {env : Surroundings σ}

/-- Whether a step ends an operation as another one does that answers with a text. -/
def Says (a : Act (Host σ) Progress)
    (b : Act (Host σ) (Except (Failure HostError) String)) : Prop :=
  ∀ h, a.Ends h fun q v => q = .said (b.run h).result ∧ v = (b.run h).world

theorem says_said (env : Surroundings σ) (steps : Nat)
    (result : Except (Failure HostError) String) :
    Says (resumeWhile env (fun _ => true) steps (.said result)) (pure result) := by
  intro h
  cases steps <;> exact ⟨rfl, rfl⟩

theorem says_releasing (steps provider : Nat) (result : Except (Failure HostError) String) :
    Says (resumeWhile env (fun _ => true) (steps + 1) (.waits (.releasing provider result)))
      (Host.endRound env provider result) :=
  fun h => says_said env steps ((Host.endRound env provider result).run h).result _

theorem says_goOn {α : Type} (steps : Nat) {r : Round} {next : α → Pending}
    {f : α → Act (Host σ) (Except (Failure HostError) String)}
    (hnext : ∀ x, Says (resumeWhile env (fun _ => true) (steps + 1) (.waits (next x)))
      (f x >>= Host.endRound env r.provider))
    (a : Act (Host σ) (Except (Failure HostError) α)) :
    Says (a >>= fun x => resumeWhile env (fun _ => true) (steps + 1) (.waits (goOn r x next)))
      (a.andThen f >>= Host.endRound env r.provider) := by
  intro h
  have hresult (x : Except (Failure HostError) α) :
      Says (resumeWhile env (fun _ => true) (steps + 1) (.waits (goOn r x next)))
        ((pure x : Act (Host σ) _).andThen f >>= Host.endRound env r.provider) := by
    cases x with
    | error e => exact says_releasing steps r.provider (.error e)
    | ok y => exact hnext y
  exact hresult (a.run h).result (a.run h).world

theorem says_hearingAgain (steps : Nat) (r : Round) (request : Request) :
    Says (resumeWhile env (fun _ => true) (steps + 2) (.waits (.hearingAgain r request)))
      (Host.secondReply env r request >>= Host.endRound env r.provider) :=
  fun h => says_releasing steps r.provider ((Host.secondReply env r request).run h).result _

theorem says_scanning (steps : Nat) (r : Round) (reply : String) :
    Says (resumeWhile env (fun _ => true) (steps + 3) (.waits (.scanning r reply)))
      (((Host.callFromReply env r reply).andThen fun
        | none => pure (.ok reply)
        | some request => Host.secondReply env r request) >>= Host.endRound env r.provider) := by
  refine fun h => says_goOn (steps + 1) ?_ (Host.callFromReply env r reply) h
  rintro (_ | request)
  · exact says_releasing (steps + 1) r.provider (.ok reply)
  · exact says_hearingAgain steps r request

theorem says_hearing (r : Round) :
    Says (resumeWhile env (fun _ => true) 4 (.waits (.hearing r)))
      (Host.completeRound env r >>= Host.endRound env r.provider) := by
  refine fun h => says_goOn 2 ?_ (Host.firstReply env r) h
  intro reply
  cases hscans : r.scans with
  | false => exact says_releasing 2 r.provider (.ok reply)
  | true => exact says_scanning 0 r reply

/-- The steps of a round, taken one after the other, come to what reading a response comes to. -/
theorem says_readResponse (env : Surroundings σ) (k : Handle) :
    Says (start env (.readResponse k) >>= toEnd env) (Host.readResponse env k) := by
  intro h
  have hbegun (x : Except (Failure HostError) Round) :
      Says (toEnd env (.continued x .hearing)) ((pure x : Act (Host σ) _).andThen fun r =>
        Host.completeRound env r >>= Host.endRound env r.provider) := by
    cases x with
    | error e => exact says_said env 0 (.error e)
    | ok r => exact says_hearing r
  exact hbegun ((Host.beginRound env k).run h).result ((Host.beginRound env k).run h).world

end Operation

end ChatHost
