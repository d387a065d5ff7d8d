import ChatHost.Model.Policy
import ChatHost.Provider.Llamafile
import ChatHost.Settings.Field
import ChatHost.Json.Display

/-!
What settings mean for the parts of the host.
-/

namespace ChatHost

/-- The least whole number that is not below a number; zero for one that is not finite. -/
def Number.ceiling (n : Number) : Int :=
  match n.value with
  | .finite num den => -(-num / den)
  | .infinite _ | .nan => 0

namespace Settings

/-- The fault of comparing a value that is not a number with a whole number. -/
def incomparable (v : Json) : Fault :=
  .mistyped s!"'>' not supported between instances of '{v.typeWord}' and 'int'"

/-- A value as a number; a truth value counts as one or zero. -/
def number (v : Json) : Except Fault Number :=
  match v with
  | .num n => .ok n
  | .bool b => .ok (.int (if b then 1 else 0))
  | v => .error (incomparable v)

def policy (s : Settings) : Model.Policy :=
  ⟨(s .allowedModelHosts).filterMap Json.str?, (s .allowedModelExtensions).filterMap Json.str?⟩

def modelPath (s : Settings) (m : Model) : Path :=
  s.modelsDir.child m.fileName

def retries (s : Settings) : Except Fault Completion.Retries := do
  let most ← number (s .maxRetries)
  let shortest ← number (s .retryMinSeconds)
  let longest ← number (s .retryMaxSeconds)
  return { most := most.ceiling, shortest := shortest, longest := longest }

def llamafile (s : Settings) (m : Model) : Except Fault Llamafile := do
  let startupDelay ← number (s .startupDelay)
  let shutdownTimeout ← number (s .shutdownTimeout)
  let retries ← s.retries
  return {
    model := m
    path := s.modelPath m
    startupDelay := startupDelay
    shutdownTimeout := shutdownTimeout
    retries := retries
    debugLogging := (s .debugLogging).isTruthy }

def chunkSize (s : Settings) : Except Fault Nat :=
  (number (s .downloadChunkSize)).map fun n => n.ceiling.toNat

end Settings

end ChatHost
