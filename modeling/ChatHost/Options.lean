import ChatHost.Fault
import ChatHost.Json.Writer

/-!
The options of a session: a system message, the endpoints of its tools, and two numbers that steer
completions. They travel as a JSON object in which an absent member and null mean the same. Their
texts may hold halves of surrogate pairs.
-/

namespace ChatHost

open Text (Letters)

structure Options where
  systemMessage : Option Letters := none
  toolEndpoints : Option (List Letters) := none
  temperature : Option Number := none
  topP : Option Number := none

namespace Options

def notSet (message : String) (cause : Option Cause := none) : Failure HostError :=
  .known ⟨.modelOptionsNotSet, message, cause⟩

/-- A member that is present and not null. -/
def given? (members : List (Letters × Json Letters)) (key : String) : Option (Json Letters) :=
  (OrderedMap.get? members key).filter fun v => !v.isNull

def systemMessageOf (members : List (Letters × Json Letters)) :
    Except (Failure HostError) (Option Letters) :=
  match given? members "system_message" with
  | none => .ok none
  | some (.str s) => .ok (some s)
  | some _ => .error (notSet "system_message must be a string")

/-- The endpoints among the members, under either of their two keys. -/
def endpointsOf (members : List (Letters × Json Letters)) :
    Except (Failure HostError) (Option (List Letters)) :=
  match (given? members "tools_sse_urls").or (given? members "tool_endpoints") with
  | none => .ok none
  | some v =>
    match v.strings? with
    | some urls => .ok (some urls)
    | none => .error (notSet "tools_sse_urls must be a list of strings")

def numberOf (members : List (Letters × Json Letters)) (key : String) :
    Except (Failure HostError) (Option Number) :=
  match given? members key with
  | none => .ok none
  | some (.num n) =>
    match n.toReal? with
    | some x => .ok (some (.real x))
    | none => .error (.fault .beyondReals)
  | some _ => .error (notSet s!"{key} must be a number")

/-- The options that the members of an object describe; members of other names are left aside. -/
def ofMembers (members : List (Letters × Json Letters)) : Except (Failure HostError) Options := do
  let systemMessage ← systemMessageOf members
  let toolEndpoints ← endpointsOf members
  let temperature ← numberOf members "temperature"
  let topP ← numberOf members "top_p"
  return ⟨systemMessage, toolEndpoints, temperature, topP⟩

def notJson : Json.ParseError → Failure HostError
  | .tooManyDigits count => .fault (.tooManyDigits count)
  | .undecodable f => notSet s!"Options are not valid JSON: {f.message}" (some (.encoding f))
  | e => notSet s!"Options are not valid JSON: {e.message}" (some (.json e))

def ofJson : Json Letters → Except (Failure HostError) Options
  | .obj members => ofMembers members
  | _ => .error (notSet "Options must be a JSON object")

def ofDocument (document : Except Json.ParseError (Json Letters)) :
    Except (Failure HostError) Options :=
  match document with
  | .error e => .error (notJson e)
  | .ok v => ofJson v

def parse (payload : Letters) : Except (Failure HostError) Options :=
  ofDocument (Json.parseLetters payload.list)

def parseBytes (payload : Text.Bytes) : Except (Failure HostError) Options :=
  ofDocument (Json.parseBytes payload)

def toJson (o : Options) : Json Letters :=
  .obj [
    ("system_message", Json.ofOption .str o.systemMessage),
    ("tools_sse_urls", Json.ofOption Json.ofStrings o.toolEndpoints),
    ("temperature", Json.ofOption .num o.temperature),
    ("top_p", Json.ofOption .num o.topP)]

def text (o : Options) : String :=
  o.toJson.text

def hasToolEndpoints (o : Options) : Bool :=
  match o.toolEndpoints with
  | some (_ :: _) => true
  | _ => false

end Options

end ChatHost
