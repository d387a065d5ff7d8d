import ChatHost.Json.Display
import ChatHost.Json.Writer
import ChatHost.Provider.Basic

/-!
Completions by an inference server: what the server is sent, how often this is tried, and what is
made of its answer.
-/

namespace ChatHost

inductive Completion.Trouble where
  /-- The server was not reached, or the connection broke. -/
  | connection (message : String)
  /-- The server answered with a status that is not one of success. -/
  | status (code : Nat)
  /-- The server's answer is none to such a request. -/
  | invalidBody (message : String)
  /-- The server's answer is not JSON. -/
  | notJson (message : String)
  /-- Something else went wrong on the way to the server. -/
  | other (message : String)
  /-- Something went wrong that no provider reports. -/
  | fault (f : Fault)
  deriving DecidableEq, Repr

namespace Completion

def Trouble.failure : Trouble → Failure ProviderError
  | .connection m | .other m => .known ⟨.communication, s!"Inference server unreachable: {m}"⟩
  | .status code => .known ⟨.communication, s!"Inference server returned HTTP {code}"⟩
  | .invalidBody m =>
    .known ⟨.invalidResponse, s!"Inference server returned an invalid body: {m}"⟩
  | .notJson m =>
    .known ⟨.invalidResponse, s!"Inference server returned a body that is not JSON: {m}"⟩
  | .fault f => .fault f

/-- The name under which a server knows its only model. -/
def modelId : String :=
  "LLaMA_CPP"

def numberMember (key : String) (n : Option Number) : List (Text.Letters × Json Text.Letters) :=
  match n with
  | none => []
  | some n => [(key, .num n)]

def payload (r : Request) : Json Text.Letters :=
  let members : List (Text.Letters × Json Text.Letters) :=
    [("model", .str modelId), ("messages", .arr (r.messages.map Message.toJson))]
  .obj (members ++ numberMember "temperature" r.temperature ++ numberMember "top_p" r.topP)

def unusable (message : String) : Failure ProviderError :=
  .known ⟨.invalidResponse, message⟩

/-- The first of the choices. Only a list or a text has one. -/
def firstChoice (choices : Json) : Except Fault Json :=
  match choices with
  | .arr (choice :: _) => .ok choice
  | .arr [] => .ok .null
  | .str s => .ok (.str (String.ofList (s.toList.take 1)))
  | .obj _ => .error (.noSuchKey "0")
  | v => .error (.mistyped s!"'{v.typeWord}' object is not subscriptable")

/-- The value that names the role of a message: the assistant's unless there is another. -/
def roleValue (message : Json) : Json :=
  match message.member? "role" with
  | some v => if v.isTruthy then v else .str Role.assistant.name
  | none => .str Role.assistant.name

def messageOf (message : Json) : Except (Failure ProviderError) (Message String) :=
  match message.member? "content" with
  | some (.str content) =>
    let value := roleValue message
    match value.str?.bind Role.ofName? with
    | some role => .ok ⟨role, content⟩
    | none => .error (unusable s!"Inference server returned unknown role {value.shown}")
  | _ => .error (unusable "Inference server response is missing message content")

def read (answer : Json) : Except (Failure ProviderError) (Message String) :=
  let choices := (answer.member? "choices").getD .null
  if !choices.isTruthy then .error (unusable "Inference server response has no choices")
  else
    match firstChoice choices with
    | .error f => .error (.fault f)
    | .ok choice => messageOf ((choice.member? "message").getD .null)

/-- A rule for how long to wait between tries: from the shortest and the longest time, and the
number of pauses so far. No time may come of it. -/
structure Backoff where
  wait (shortest longest : Number) (pauses : Nat) : Except Fault Number

namespace Backoff

/-- Whether a double is to be multiplied with a power of two that is beyond the range of doubles. -/
def overflows (shortest : Number) (pauses : Nat) : Bool :=
  match shortest with
  | .int _ => false
  | .real _ => 1024 ≤ pauses

def doubled (shortest : Number) (times : Nat) : Number :=
  match shortest with
  | .int n => .int (n * Decimal.twoTo times)
  | .real x => .real ((Number.real x).value.doubled times).toReal

def capped (longest time : Number) : Number :=
  if longest.less time then longest else time

/-- The shortest time, twice as long after each pause, but not longer than the longest, which is
also taken when there is no product. -/
def chosen (shortest longest : Number) (pauses : Nat) : Number :=
  if overflows shortest pauses then longest
  else
    let time := capped longest (doubled shortest pauses)
    if (Number.int 0).less time then time else .int 0

/-- The rule of a library in wide use. It adds up the times that it takes, so one that is beyond the
range of doubles is none. -/
def doubling : Backoff where
  wait shortest longest pauses :=
    match (chosen shortest longest pauses).toReal? with
    | some x => .ok (.real x)
    | none => .error .beyondReals

end Backoff

/-- How often a completion is tried, and how long to wait in between. -/
structure Retries where
  most : Int := 3
  shortest : Number := .real 0.5
  longest : Number := .real 4.0
  rule : Backoff := .doubling

namespace Retries

/-- The number of tries; there is at least one. -/
def count (r : Retries) : Nat :=
  (max 1 r.most).toNat

def wait (r : Retries) (tries : Nat) : Except Fault Number :=
  r.rule.wait r.shortest r.longest tries

end Retries

/-- Tries for a completion, with a pause after each try that failed for want of a connection, unless
it was the last. The first number is that of the tries left after the next one, the second that of
the tries so far. -/
def tryFor {σ : Type} (attempt : Act σ (Except Trouble Json)) (wait : Nat → Except Fault Number)
    (sleep : Number → Act σ Unit) : Nat → Nat → Act σ (Except Trouble Json)
  | 0, _ => attempt
  | left + 1, tries => do
    match ← attempt with
    | .error (.connection _) =>
      match wait tries with
      | .error f => return .error (.fault f)
      | .ok time =>
        sleep time
        tryFor attempt wait sleep left (tries + 1)
    | outcome => return outcome

end Completion

end ChatHost
