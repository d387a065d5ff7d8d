import ChatHost.Json.Parse

/-!
What a caller of the host is told when an operation fails. Every error has one of ten kinds; a kind
has a name, a stable code, and a message that is used when there is none more precise.
-/

namespace ChatHost

/-- The conditions that are reported to a caller. -/
inductive ErrorKind where
  | modelNotSet
  | modelNotSupported
  | modelInitializationFailed
  | modelCompletionFailed
  | modelOptionsNotSet
  | modelShutdownFailed
  | permissionDenied
  | toolCallFailed
  | notUtf8
  | internal
  deriving DecidableEq, Repr

namespace ErrorKind

def all : List ErrorKind :=
  [.modelNotSet, .modelNotSupported, .modelInitializationFailed, .modelCompletionFailed,
    .modelOptionsNotSet, .modelShutdownFailed, .permissionDenied, .toolCallFailed, .notUtf8,
    .internal]

def name : ErrorKind → String
  | .modelNotSet => "model_not_set"
  | .modelNotSupported => "model_not_supported"
  | .modelInitializationFailed => "model_initialization_failed"
  | .modelCompletionFailed => "model_completion_failed"
  | .modelOptionsNotSet => "model_options_not_set"
  | .modelShutdownFailed => "model_shutdown_failed"
  | .permissionDenied => "permission_denied"
  | .toolCallFailed => "mcp_function_call_error"
  | .notUtf8 => "utf8_error"
  | .internal => "runtime_error"

/-- The code of a kind; zero is left for success. -/
def code : ErrorKind → Nat
  | .modelNotSet => 1
  | .modelNotSupported => 2
  | .modelInitializationFailed => 3
  | .modelCompletionFailed => 4
  | .modelOptionsNotSet => 5
  | .modelShutdownFailed => 6
  | .notUtf8 => 7
  | .internal => 8
  | .toolCallFailed => 9
  | .permissionDenied => 10

def defaultMessage : ErrorKind → String
  | .modelNotSet => "No model is set for this handle"
  | .modelNotSupported => "Model is not supported"
  | .modelInitializationFailed => "Model initialization failed"
  | .modelCompletionFailed => "Model completion failed"
  | .modelOptionsNotSet => "Model options could not be parsed"
  | .modelShutdownFailed => "Model shutdown failed"
  | .permissionDenied => "Permission denied for model URL"
  | .toolCallFailed => "MCP function call failed"
  | .notUtf8 => "Input is not valid UTF-8"
  | .internal => "Internal driver error"

def ofName? (s : String) : Option ErrorKind :=
  all.find? fun k => k.name = s

end ErrorKind

/-- The ways in which a provider of a model fails, the special ones after the general. -/
inductive ProviderErrorKind where
  | general
  | initialization
  | download
  | server
  | notFound
  | permission
  | communication
  | invalidResponse
  | shutdown
  deriving DecidableEq, Repr

def ProviderErrorKind.isInitialization : ProviderErrorKind → Bool
  | .initialization | .download | .server | .notFound | .permission => true
  | _ => false

structure ProviderError where
  kind : ProviderErrorKind
  message : String
  deriving DecidableEq, Repr

/-- What an error was raised from. -/
inductive Cause where
  | json (e : Json.ParseError)
  | encoding (f : Text.DecodeFault)
  | provider (e : ProviderError)
  deriving DecidableEq, Repr

structure HostError where
  kind : ErrorKind
  message : String
  cause : Option Cause := none
  deriving DecidableEq, Repr

namespace HostError

/-- The error of a kind with a message, or with the kind's own when the message is empty. -/
def of (kind : ErrorKind) (message : String) (cause : Option Cause := none) : HostError :=
  ⟨kind, if message.isEmpty then kind.defaultMessage else message, cause⟩

/-- The error of a kind, with its own message when none or an empty one is given. -/
def ofKind (kind : ErrorKind) (message : Option String) : HostError :=
  of kind (message.getD "")

/-- The error as one line: its kind's name in brackets, then the message. -/
def line (e : HostError) : String :=
  s!"[{e.kind.name}] {e.message}"

end HostError

end ChatHost
