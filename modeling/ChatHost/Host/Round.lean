import ChatHost.Host.Basic
import ChatHost.Tool.Call

/-!
Rounds: a completion of a session's conversation, and at most one call of a tool with a second
completion after it. A round holds a lease on the session's provider from its beginning to its end.
-/

namespace ChatHost

structure Round where
  handle : Handle
  provider : Nat
  snapshot : Snapshot

/-- Whether a round looks for function calls in its first reply: when a tool can be called. -/
def Round.scans (r : Round) : Bool :=
  (r.snapshot.tools.getD []).anyReachable

namespace Host

variable {σ : Type}

def ask (env : Surroundings σ) (provider : Nat) (request : Request) : Act (Host σ) Unit :=
  within ((env.provider provider).ask request)

/-- Waits for the answer to a request. Whatever role it comes with, it is the assistant's. -/
def hear (env : Surroundings σ) (provider : Nat) (request : Request) :
    Act (Host σ) (Except (Failure HostError) (Message String)) := do
  match ← within ((env.provider provider).answer request) with
  | .ok m => return .ok ⟨.assistant, m.content⟩
  | .error (.fault f) => return .error (.fault f)
  | .error (.known e) =>
    Act.log .error logger s!"Model completion failed: {e.message}"
    return .error (.known (.of .modelCompletionFailed e.message (some (.provider e))))

/-- Begins a round: takes a lease, keeps what the session is now, and asks for a completion. -/
def beginRound (env : Surroundings σ) (handle : Handle) :
    Act (Host σ) (Except (Failure HostError) Round) :=
  (look handle fun s => (s.provider, s.snapshot)).andThen fun (provider, snapshot) => do
    (leasePlace provider).acquire
    ask env provider snapshot.request
    return .ok ⟨handle, provider, snapshot⟩

def firstReply (env : Surroundings σ) (r : Round) :
    Act (Host σ) (Except (Failure HostError) String) :=
  (hear env r.provider r.snapshot.request).andThen fun reply =>
  (addMessage r.handle reply.entry).andThen fun () =>
  pure (.ok reply.content)

/-- Takes the output of a tool into the conversation, and asks for a second completion. -/
def takeOutput (env : Surroundings σ) (r : Round) (output : String) :
    Act (Host σ) (Except (Failure HostError) Request) :=
  (addMessage r.handle ⟨.tool, output⟩).andThen fun () =>
  (look r.handle Session.messages).andThen fun messages => do
    let request : Request := { r.snapshot.request with messages := messages }
    ask env r.provider request
    return .ok request

/-- Carries out the function call in a reply, and gives the request for a second completion; none
when there is no function call. -/
def callFromReply (env : Surroundings σ) (r : Round) (reply : String) :
    Act (Host σ) (Except (Failure HostError) (Option Request)) := do
  match ← within (Tool.processText env.validator env.transport
    (r.snapshot.tools.getD []) reply) with
  | .error f => return .error (.fault f)
  | .ok .noCall =>
    Act.log .debug logger "No function call detected in the response"
    return .ok none
  | .ok (.failed _ message) =>
    Act.log .error logger s!"MCP function call error: {message}"
    return .error (.known (.of .toolCallFailed message))
  | .ok (.executed _ output) =>
    (takeOutput env r output).andThen fun request => pure (.ok (some request))

def secondReply (env : Surroundings σ) (r : Round) (request : Request) :
    Act (Host σ) (Except (Failure HostError) String) :=
  (hear env r.provider request).andThen fun reply =>
  (addMessage r.handle reply.entry).andThen fun () =>
  pure (.ok reply.content)

/-- Ends a round that came to a result: gives the lease back. -/
def endRound (env : Surroundings σ) (provider : Nat)
    (result : Except (Failure HostError) String) :
    Act (Host σ) (Except (Failure HostError) String) := do
  match ← (leasePlace provider).release (shutdown env provider) with
  | .ok () => return result
  | .error f => return .error (.fault f)

/-- What a round comes to once its first reply is there. -/
def completeRound (env : Surroundings σ) (r : Round) :
    Act (Host σ) (Except (Failure HostError) String) :=
  (firstReply env r).andThen fun reply =>
    if r.scans then
      (callFromReply env r reply).andThen fun
        | none => pure (.ok reply)
        | some request => secondReply env r request
    else pure (.ok reply)

/-- Completes a session's conversation and gives the reply. -/
def readResponse (env : Surroundings σ) (handle : Handle) :
    Act (Host σ) (Except (Failure HostError) String) :=
  (beginRound env handle).andThen fun r => do
    endRound env r.provider (← completeRound env r)

end Host

end ChatHost
