import ChatHost.Options
import ChatHost.Provider.Basic
import ChatHost.Tool.Basic

/-!
Sessions: the conversation with one model. New options start the conversation over.
-/

namespace ChatHost

/-- A session. Its provider is known by the number with which it was made. -/
structure Session where
  modelName : String
  provider : Nat
  options : Options := {}
  tools : Option Tools := none
  messages : List Message := []
  /-- How often the conversation has been started over. -/
  resets : Nat := 0

/-- What a completion needs to know of a session at its beginning. -/
structure Snapshot where
  messages : List Message
  tools : Option Tools
  options : Options
  resets : Nat := 0

namespace Session

def logger : String :=
  "session"

/-- What a completion that begins now needs to know. -/
def snapshot (s : Session) : Snapshot :=
  ⟨s.messages, s.tools, s.options, s.resets⟩

def addMessage (s : Session) (m : Message) : Session :=
  { s with messages := s.messages ++ [m] }

/-- Starts the conversation over with a system prompt, under other options and with other tools. -/
def reset (s : Session) (options : Options) (prompt : Text.Letters)
    (tools : Option Tools) : Session :=
  { s with
    options := options
    tools := tools
    messages := [⟨.system, prompt⟩]
    resets := s.resets + 1 }

def resetRecord (modelName : String) (tools : Option Tools) : LogRecord :=
  ⟨.debug, logger, s!"Session for {modelName} reset ({(tools.getD []).length} tool(s))"⟩

/-- Brings a provider to the state in which it serves. After an error of the provider it is shut
down; after any other failure it is left as it is. -/
def bringUp {σ : Type} (p : Provider σ) (config : ServerConfig) :
    Act σ (Except (Failure ProviderError) Unit) := do
  match ← p.start config with
  | .ok () => return .ok ()
  | .error (.fault f) => return .error (.fault f)
  | .error (.known e) =>
    match ← p.shutdown with
    | .ok () => return .error (.known e)
    | .error (.fault f) => return .error (.fault f)
    | .error (.known late) =>
      Act.log .debug logger
        s!"Cleanup after failed initialization also failed: {late.message}"
      return .error (.known e)

end Session

/-- The request for a completion of the conversation as it was at the snapshot. -/
def Snapshot.request (s : Snapshot) : Request :=
  ⟨s.messages, s.options.temperature, s.options.topP⟩

end ChatHost
