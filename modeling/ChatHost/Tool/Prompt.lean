import ChatHost.Json.Writer
import ChatHost.Log
import ChatHost.Text.Template
import ChatHost.Tool.Basic

/-!
The system prompt of a session: the date, the caller's instructions, and with tools also what they
are and how they are called.
-/

namespace ChatHost

structure Date where
  year : Nat
  month : Nat
  day : Nat
  deriving DecidableEq, Repr

def monthNames : List String :=
  ["January", "February", "March", "April", "May", "June", "July", "August", "September",
    "October", "November", "December"]

/-- A day as month, day in two digits, and year. -/
def Date.text (d : Date) : String :=
  let month := monthNames.getD (d.month - 1) ""
  s!"{month} {String.ofList (Decimal.padded 2 d.day)}, {d.year}"

namespace Prompt

def dateLine (today : Date) : String :=
  s!"Today Date: {today.text}\n"

/-- The instructions of a caller who gives none. -/
def defaultMessage : String :=
  "You are a helpful AI assistant."

def callExample : String :=
  "<function>\x7b \"name\": \"example_function_name\", " ++
    "\"arguments\": \x7b \"example_name\": \"example_value\" \x7d \x7d</function>"

def assistantInstructions : String :=
  "\n# Assistant Instructions\nYou are a helpful AI assistant that can leverage tools to " ++
    "provide accurate and up-to-date information. You excel at understanding when and how to " ++
    "use the right tools to solve user requests efficiently.\n"

def beforeFunctions : String :=
  "\n# Tool Instructions\nYou have access to external tools that can provide real-time " ++
    "information, perform calculations, and execute specific actions. Always consider using " ++
    "these tools when:\n" ++
    "- The user asks for real-time or up-to-date information\n" ++
    "- The user's request requires external data that may not be in your training\n" ++
    "- A specialized capability would provide a more accurate or detailed response\n" ++
    "- You need to verify facts or check current information\n\nAvailable functions:\n"

/-- The text between the list of functions and the example of a call. -/
def beforeExample : String :=
  "\n\nFunction calling protocol:\n```\n"

def afterExample : String :=
  "\n```\n\nCritical requirements for function calls:\n" ++
    "- Function calls MUST be enclosed in BOTH <function> and </function> tags\n" ++
    "- All required parameters MUST be specified in the arguments object\n" ++
    "- When calling a function, respond ONLY with the function call JSON object\n" ++
    "- Keep the entire function call on a single line\n" ++
    "- Call only one function at a time\n" ++
    "- Include exact parameter names as specified in the function definition\n" ++
    "- When using search results in non-function responses, always cite your sources\n\n" ++
    "For complex requests, use a step-by-step approach:\n" ++
    "1. Analyze what tool is most appropriate for the request\n" ++
    "2. Call the function with precise parameters\n" ++
    "3. Use the returned data to formulate your complete response\n\n" ++
    "When explicitly asked to use MCP (Model Context Protocol), you MUST use the functions " ++
    "provided to you.\n"

def toolTemplate : String :=
  beforeFunctions ++ "\x7bfunctions\x7d" ++ beforeExample ++ "\x7bexample\x7d" ++ afterExample

/-- The list of functions: JSON over several lines, in the characters of the descriptions. There is
none when it would hold a number that cannot be written. -/
def functions (tools : Tools) : Except Fault String :=
  let list := Json.arr (tools.map fun entry => entry.2.toPromptJson)
  if list.isWritable then .ok (list.render ⟨false, some 2⟩) else .error (.invalid Decimal.tooLong)

def plain (today : Date) (message : Option Text.Letters) : Text.Letters :=
  let message := message.getD ""
  .ofString (dateLine today ++ "# Assistant Instructions\n") ++
    (if message.isEmpty then .ofString defaultMessage else message)

/-- The caller's instructions as a line of their own, if there are any. -/
def messageLine (message : Option Text.Letters) : Text.Letters :=
  let message := message.getD ""
  if message.isEmpty then "" else message ++ .ofString "\n"

def fieldsFor (list : String) : OrderedMap String String :=
  [("functions", list), ("example", callExample)]

def toolInstructions (list : String) : String :=
  (Text.filled (OrderedMap.get? (fieldsFor list)) toolTemplate).getD ""

/-- The prompt of a session with tools, around the list of functions. -/
def withTools (today : Date) (message : Option Text.Letters) (list : String) : Text.Letters :=
  .ofString (dateLine today ++ assistantInstructions) ++ messageLine message ++
    .ofString (toolInstructions list)

def build (today : Date) (message : Option Text.Letters) (tools : Tools) :
    Except Fault Text.Letters :=
  if tools.isEmpty then .ok (plain today message)
  else (functions tools).map (withTools today message)

def records (prompt : Text.Letters) (tools : Tools) : List LogRecord :=
  if tools.isEmpty then []
  else
    [⟨.debug, "tools.prompt", s!"System prompt with {tools.length} tool(s):\n{prompt}"⟩]

end Prompt

end ChatHost
