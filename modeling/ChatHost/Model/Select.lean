import ChatHost.Log
import ChatHost.Model.Catalog
import ChatHost.Model.Policy

/-!
From a caller's text to a model. A text that is neither a catalog identifier nor an acceptable URL
is not supported, whatever the reason.
-/

namespace ChatHost.Model

/-- A choice of model, or the stripped text that names none, and the rejection of it as a URL. -/
inductive Choice where
  | model (m : Model)
  | unsupported (candidate : String) (reason : Rejection)
  deriving DecidableEq, Repr

def choose (policy : Policy) (text : String) : Choice :=
  let candidate := Text.stripChars text.toList
  match ofCatalog? candidate with
  | some m => .model m
  | none =>
    match policy.checkUrl candidate with
    | .ok fileName => .model (.url (String.ofList candidate) (String.ofList fileName))
    | .error reason => .unsupported (String.ofList candidate) reason

def unsupportedMessage (candidate : String) : String :=
  s!"Model '{candidate}' is not supported"

def rejectionRecord (reason : Rejection) : LogRecord :=
  ⟨.debug, "models", reason.message⟩

def Choice.records : Choice → List LogRecord
  | .model _ => []
  | .unsupported _ reason => [rejectionRecord reason]

end ChatHost.Model
