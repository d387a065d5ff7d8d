import ChatHost.Host.Basic
import ChatHost.Tool.Discovery

/-!
Giving a session new options. Tools are looked for first, one endpoint after the other; then the
session takes options, tools and a system prompt all at once.
-/

namespace ChatHost

/-- Options that a caller passes: as JSON text, or as they are. -/
inductive OptionsInput where
  | text (payload : Text.Letters)
  | bytes (payload : Text.Bytes)
  | given (options : Options)

def OptionsInput.read : OptionsInput → Except (Failure HostError) Options
  | .given options => .ok options
  | .text payload => Options.parse payload
  | .bytes payload =>
    match (Input.bytes payload).decode "options" with
    | .error e => .error (.known e)
    | .ok s => Options.parse s

namespace Host

variable {σ : Type}

def readOptions (input : OptionsInput) : Act (Host σ) (Except (Failure HostError) Options) :=
  match input.read with
  | .ok options => return .ok options
  | .error (.fault f) => return .error (.fault f)
  | .error (.known e) => do
    Act.log .error logger s!"Failed to parse options: {e.line}"
    return .error (.known e)

def beginConfigure (handle : Handle) (input : OptionsInput) :
    Act (Host σ) (Except (Failure HostError) Options) :=
  (readOptions input).andThen fun options =>
  (look handle fun _ => ()).andThen fun () =>
  pure (.ok options)

def endpointsToVisit (options : Options) : List Text.Letters :=
  options.toolEndpoints.getD []

def visitEndpoint (env : Surroundings σ) (tools : Tools) (endpoint : Text.Letters) :
    Act (Host σ) Tools :=
  within (Tool.visit env.transport tools endpoint)

/-- Starts a session's conversation over. Nothing is changed when there is no prompt for it. -/
def applyOptions (env : Surroundings σ) (handle : Handle) (options : Options)
    (tools : Option Tools) : Act (Host σ) (Except (Failure HostError) Unit) := do
  let today ← within env.today
  match Prompt.build today options.systemMessage (tools.getD []) with
  | .error f => return .error (.fault f)
  | .ok prompt =>
    Act.write (Prompt.records prompt (tools.getD []))
    (look handle Session.modelName).andThen fun modelName => do
      Act.write [Session.resetRecord modelName tools]
      change handle fun s => s.reset options prompt tools

/-- Ends the search for tools, and starts a session's conversation over with those found. -/
def endConfigure (env : Surroundings σ) (handle : Handle) (options : Options) (tools : Tools) :
    Act (Host σ) (Except (Failure HostError) Unit) := do
  let endpoints := (endpointsToVisit options).length
  Act.write [Tool.discoveredRecord tools endpoints]
  Act.log .info logger s!"Loaded {tools.length} tool(s) from {endpoints} endpoint(s)"
  applyOptions env handle options (some tools)

def setOptions (env : Surroundings σ) (handle : Handle) (input : OptionsInput) :
    Act (Host σ) (Except (Failure HostError) Unit) :=
  (beginConfigure handle input).andThen fun options => do
    if options.hasToolEndpoints then
      let tools ← within (Tool.visitAll env.transport [] (endpointsToVisit options))
      endConfigure env handle options tools
    else applyOptions env handle options none

end Host

end ChatHost
