import ChatHost.Reading
import ChatHost.Settings.Layer

/-!
Settings from environment variables. A variable that should hold a number and does not is recorded
and left aside.
-/

namespace ChatHost

abbrev Environment := OrderedMap String String

namespace Settings

def trueWords : List String :=
  ["1", "true", "yes", "on", "debug"]

/-- A text as a word: without blanks at its ends, in lower case. -/
def word (s : String) : String :=
  Text.lower (Text.strip s)

/-- The fields that have a variable, with its name, in the order in which they are read. -/
def fieldVariables : List (Field × String) :=
  [(.host, "BLESSNET_LLM_HOST"), (.modelsDir, "BLESSNET_LLM_MODELS_DIR"),
    (.logDir, "BLESSNET_LLM_LOG_DIR"), (.debugLogging, "BLESSNET_LLM_DEBUG"),
    (.port, "BLESSNET_LLM_PORT"), (.maxRetries, "BLESSNET_LLM_MAX_RETRIES"),
    (.requestTimeout, "BLESSNET_LLM_TIMEOUT"), (.startupDelay, "BLESSNET_LLM_STARTUP_DELAY")]

/-- The value that a variable gives to a field of a kind; the word for what it should hold when it
gives none. -/
def readVariable (k : Field.Kind) (s : String) : Except String Given :=
  match k with
  | .whole => ((Reading.whole s).map fun n => .json (.ofInt n)).mapError fun _ => "integer"
  | .real => ((Reading.real s).map fun x => .json (.ofReal x)).mapError fun _ => "float"
  | .flag => .ok (.json (.bool (trueWords.contains (word s))))
  | .text | .path | .names => .ok (.json (.str s))

def variableGives (env : Environment) (f : Field) (variableName : String) :
    Option (Except String Given) :=
  (OrderedMap.get? env variableName).map (readVariable f.kind)

def givenByEnvironment (env : Environment) : OrderedMap Field Given :=
  fieldVariables.filterMap fun (f, v) =>
    match variableGives env f v with
    | some (.ok g) => some (f, g)
    | _ => none

def environmentRecords (env : Environment) : List LogRecord :=
  fieldVariables.filterMap fun (f, v) =>
    match variableGives env f v with
    | some (.error what) =>
      let text := (OrderedMap.get? env v).getD ""
      some ⟨.warning, logger, s!"Environment override {v}={text} is not a valid {what}"⟩
    | _ => none

def applyEnvironment {σ : Type} (homes : Path.Homes) (env : Environment) (s : Settings) :
    Act σ (Except Fault Settings) := do
  Act.write (environmentRecords env)
  Settings.apply homes "environment" (givenByEnvironment env) s

end Settings

end ChatHost
