import ChatHost.Host.Close
import ChatHost.Host.Configure
import ChatHost.Host.Round
import ChatHost.Host.Start

/-!
Operations on a host, step by step. Between two steps of one operation others may go on; what an
operation needs to know for its next step is all that it keeps.
-/

namespace ChatHost

inductive Operation (σ : Type) where
  | setModel (model : Input) (check : Option (UrlCheck σ))
  | getModel (handle : Handle)
  | setOptions (handle : Handle) (options : OptionsInput)
  | getOptions (handle : Handle)
  | prompt (handle : Handle) (text : Input)
  | readResponse (handle : Handle)
  | close (handle : Handle)
  | closeAll

namespace Operation

inductive Answer where
  | done
  | handle (handle : Handle)
  | text (text : String)
  deriving DecidableEq, Repr

/-- An operation between two of its steps. -/
inductive Pending where
  /-- A provider has been made and is to be started. -/
  | starting (s : Host.Starting)
  /-- Endpoints are left to be visited before a session takes its options. -/
  | visiting (handle : Handle) (options : Options) (tools : Tools) (endpoint : Text.Letters)
    (left : List Text.Letters)
  /-- The first answer of a round is waited for. -/
  | hearing (r : Round)
  /-- The first reply of a round is to be scanned for a function call. -/
  | scanning (r : Round) (reply : String)
  /-- The second answer of a round is waited for. -/
  | hearingAgain (r : Round) (request : Request)
  /-- A round has come to its result, and its lease is to be given back. -/
  | releasing (provider : Nat) (result : Except (Failure HostError) String)
  /-- A session has been taken from under its handle, and its provider is to be closed. -/
  | closing (handle : Handle) (provider : Nat)
  /-- The same, with more handles to come. -/
  | closingEach (handle : Handle) (provider : Nat) (left : List Handle)

/-- How far an operation has come. -/
inductive Progress where
  | ended (result : Except (Failure HostError) Answer)
  | waits (p : Pending)

namespace Progress

/-- The end of an operation with a result that answers in the given way. -/
def endedWith {α : Type} (answer : α → Answer) (result : Except (Failure HostError) α) : Progress :=
  .ended (result.map answer)

def done (result : Except (Failure HostError) Unit) : Progress :=
  endedWith (fun () => .done) result

def said (result : Except (Failure HostError) String) : Progress :=
  endedWith .text result

def continued {α : Type} (result : Except (Failure HostError) α) (next : α → Pending) : Progress :=
  match result with
  | .ok a => .waits (next a)
  | .error e => .ended (.error e)

end Progress

variable {σ : Type}

def closeNext : List Handle → Act (Host σ) Progress
  | [] => return .ended (.ok .done)
  | handle :: left => do
    match ← Host.beginClose handle with
    | none => closeNext left
    | some provider => return .waits (.closingEach handle provider left)

def start (env : Surroundings σ) : Operation σ → Act (Host σ) Progress
  | .setModel model check => do
    return .continued (← Host.beginStart env model check) .starting
  | .getModel handle => return .said (← Host.getModel handle)
  | .setOptions handle input => do
    match ← Host.beginConfigure handle input with
    | .error e => return .ended (.error e)
    | .ok options =>
      match options.toolEndpoints with
      | some (endpoint :: left) => return .waits (.visiting handle options [] endpoint left)
      | _ => return .done (← Host.applyOptions env handle options none)
  | .getOptions handle => return .said (← Host.getOptions handle)
  | .prompt handle text => return .done (← Host.prompt handle text)
  | .readResponse handle => return .continued (← Host.beginRound env handle) .hearing
  | .close handle => do
    match ← Host.beginClose handle with
    | none => return .ended (.ok .done)
    | some provider => return .waits (.closing handle provider)
  | .closeAll => do closeNext (← Act.read fun h => h.registry.handles)

/-- Goes on in a round: a result that is an error is kept until the lease has been given back. -/
def goOn {α : Type} (r : Round) (result : Except (Failure HostError) α) (next : α → Pending) :
    Pending :=
  match result with
  | .ok a => next a
  | .error e => .releasing r.provider (.error e)

def resume (env : Surroundings σ) : Pending → Act (Host σ) Progress
  | .starting s => return .endedWith .handle (← Host.endStart env s)
  | .visiting handle options tools endpoint left => do
    let tools ← Host.visitEndpoint env tools endpoint
    match left with
    | endpoint :: left => return .waits (.visiting handle options tools endpoint left)
    | [] => return .done (← Host.endConfigure env handle options tools)
  | .hearing r => do
    return .waits (goOn r (← Host.firstReply env r) fun reply =>
      if r.scans then .scanning r reply else .releasing r.provider (.ok reply))
  | .scanning r reply => do
    return .waits (goOn r (← Host.callFromReply env r reply) fun
      | none => .releasing r.provider (.ok reply)
      | some request => .hearingAgain r request)
  | .hearingAgain r request => do
    return .waits (.releasing r.provider (← Host.secondReply env r request))
  | .releasing provider result => return .said (← Host.endRound env provider result)
  | .closing handle provider => return .done (← Host.endClose env handle provider)
  | .closingEach handle provider left => do
    match ← Host.tolerate handle (← Host.endClose env handle provider) with
    | .error f => return .ended (.error (.fault f))
    | .ok () => closeNext left

/-- Goes on with an operation for at most the given number of steps, as long as it waits for
something that satisfies a condition. -/
def resumeWhile (env : Surroundings σ) (condition : Pending → Bool) :
    Nat → Progress → Act (Host σ) Progress
  | 0, p => return p
  | _ + 1, .ended result => return .ended result
  | steps + 1, .waits p => do
    if condition p then resumeWhile env condition steps (← resume env p) else return .waits p

/-- A bound on the number of steps that an operation still takes. -/
def Pending.stepsLeft : Pending → Nat
  | .starting _ | .releasing .. | .closing .. => 1
  | .visiting _ _ _ _ left => left.length + 1
  | .hearing _ => 4
  | .scanning .. => 3
  | .hearingAgain .. => 2
  | .closingEach _ _ left => left.length + 1

def toEnd (env : Surroundings σ) : Progress → Act (Host σ) Progress
  | .ended result => return .ended result
  | .waits p => resumeWhile env (fun _ => true) p.stepsLeft (.waits p)

end Operation

end ChatHost
