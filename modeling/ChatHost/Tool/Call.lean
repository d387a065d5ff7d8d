import ChatHost.Json.Parse
import ChatHost.Schema.Validator
import ChatHost.Tool.Transport

/-!
Function calls in the output of a model. A call is a JSON object with a name and arguments, which
stands between the first opening and the last closing brace of the text. It is checked against the
tool's schema and sent to the tool's endpoint in a session of its own.
-/

namespace ChatHost.Tool

def callLogger : String :=
  "tools.function_call"

def throughLastBrace? (s : List Char) : Option (List Char) :=
  match s.reverse.dropWhile (· ≠ '\x7d') with
  | [] => none
  | upTo => some upTo.reverse

/-- The text from its first opening brace through the last closing brace, or to the end when none
closes it. -/
def candidate? (s : List Char) : Option (List Char) :=
  match s.dropWhile (· ≠ '\x7b') with
  | [] => none
  | rest => some ((throughLastBrace? rest).getD rest)

/-- A function call: the name of the function, and whatever stands for its arguments. -/
structure FunctionCall where
  name : String
  arguments : Json

def FunctionCall.ofJson? (v : Json) : Option FunctionCall :=
  match v.member? "name", v.member? "arguments" with
  | some (.str name), some arguments => some ⟨name, arguments⟩
  | _, _ => none

/-- Reads a function call. A text that is no JSON leaves a record; a number that is too long is a
fault. -/
def parseCall {σ : Type} (candidate : List Char) : Act σ (Except Fault (Option FunctionCall)) :=
  match Json.parseChars candidate with
  | .error (.tooManyDigits count) => return .error (.tooManyDigits count)
  | .error e => do
    Act.log .debug callLogger s!"Function call candidate is not JSON: {e.message}"
    return .ok none
  | .ok v => return .ok (FunctionCall.ofJson? v)

/-- The failure of a call, told to the model. -/
structure CallError where
  message : String
  deriving DecidableEq, Repr

/-- The wording for arguments that do not fit the schema. -/
def invalidArguments (m : Schema.Mismatch) : CallError :=
  let place := ".".intercalate (m.path.map Schema.Step.text)
  if place.isEmpty then ⟨s!"Invalid arguments: {m.message}"⟩
  else ⟨s!"Invalid arguments: {place}: {m.message}"⟩

/-- Checks arguments against the schema of a tool; an empty schema asks for nothing, and one that is
not usable is left to the tool. -/
def checkArguments {σ : Type} (judge : Schema.Validator) (schema arguments : Json) :
    Act σ (Except (Failure CallError) Unit) := do
  if !schema.isTruthy then return .ok ()
  match judge.flaw? schema with
  | .error f => return .error (.fault f)
  | .ok (some flaw) =>
    Act.log .warning callLogger
      s!"Tool input schema is invalid; skipping argument validation: {flaw}"
    return .ok ()
  | .ok none =>
    match judge.mismatch? schema arguments with
    | .error f => return .error (.fault f)
    | .ok (some m) => return .error (.known (invalidArguments m))
    | .ok none => return .ok ()

def itemText? (item : Json) : Option String :=
  match (item.attribute? "type").getD (.str "text"), item.attribute? "text" with
  | .str "text", some (.str text) => some text
  | _, _ => none

def answerItems (answer : Json) : Except Fault (List Json) :=
  match (answer.attribute? "content").getD .null with
  | .arr items => .ok items
  | .str s => .ok (s.toList.map fun c => .str (String.ofList [c]))
  | v =>
    if v.isTruthyRemote then .error (.mistyped s!"'{v.kindWord}' object is not iterable")
    else .ok []

def outputOf (name : String) (answer : Json) : Except (Failure CallError) String :=
  if ((answer.attribute? "isError").map Json.isTruthyRemote).getD false then
    .error (.known ⟨s!"Tool {name} returned an error"⟩)
  else
    match answerItems answer with
    | .error f => .error (.fault f)
    | .ok items => .ok (" ".intercalate (items.filterMap itemText?))

def shownArguments (arguments : Option (List (String × Json))) : String :=
  (Json.ofOption .obj arguments).shown

def callTool {σ : Type} (judge : Schema.Validator) (t : Transport σ) (tools : Tools)
    (call : FunctionCall) : Act σ (Except (Failure CallError) String) := do
  match (OrderedMap.get? tools call.name).filter Tool.reachable with
  | none => return .error (.known ⟨s!"Tool {call.name} not found"⟩)
  | some tool =>
    let arguments := call.arguments.members?
    match ← checkArguments judge (.obj tool.inputSchema) (.obj (arguments.getD [])) with
    | .error e => return .error e
    | .ok () =>
      Act.log .info callLogger s!"Calling tool {call.name} at {tool.endpoint}"
      Act.log .debug callLogger s!"Tool {call.name} arguments: {shownArguments arguments}"
      match ← t.withSession tool.endpoint (t.call tool.endpoint call.name arguments) with
      | .error f => return .error (.known ⟨s!"Transport failure: {f.message}"⟩)
      | .ok answer => return outputOf call.name answer

/-- What became of a text of the model. -/
inductive CallResult where
  /-- The text holds no function call. -/
  | noCall
  /-- The tool answered. -/
  | executed (name output : String)
  /-- The call could not be carried out. -/
  | failed (name message : String)
  deriving DecidableEq, Repr

def processText {σ : Type} (judge : Schema.Validator) (t : Transport σ) (tools : Tools)
    (text : String) : Act σ (Except Fault CallResult) := do
  Act.log .debug callLogger s!"Scanning model output for a function call: {text}"
  match candidate? text.toList with
  | none => return .ok .noCall
  | some candidate =>
    match ← parseCall candidate with
    | .error f => return .error f
    | .ok none => return .ok .noCall
    | .ok (some call) =>
      Act.log .info callLogger s!"Detected function call: {call.name}"
      match ← callTool judge t tools call with
      | .error (.fault f) => return .error f
      | .error (.known e) =>
        let message := s!"Error calling function '{call.name}': {e.message}"
        Act.log .warning callLogger message
        return .ok (.failed call.name message)
      | .ok output =>
        Act.log .debug callLogger s!"Function {call.name} returned: {output}"
        return .ok (.executed call.name output)

end ChatHost.Tool
