/-!
Log records, and steps that write them while they act on the outside world.
-/

namespace ChatHost

/-- How grave a record is; levels compare as numbers. -/
abbrev Level := Nat

namespace Level

def debug : Level := 10

def info : Level := 20

def warning : Level := 30

def error : Level := 40

def name (l : Level) : String :=
  if l = 10 then "DEBUG"
  else if l = 20 then "INFO"
  else if l = 30 then "WARNING"
  else if l = 40 then "ERROR"
  else if l = 50 then "CRITICAL"
  else if l = 0 then "NOTSET"
  else s!"Level {l}"

end Level

structure LogRecord where
  level : Level
  logger : String
  message : String
  deriving DecidableEq, Repr

/-- A step on an outside world `σ`: its result, the world after it, and the records it wrote. -/
structure Outcome (σ α : Type) where
  result : α
  world : σ
  records : List LogRecord

def Act (σ α : Type) := σ → Outcome σ α

namespace Act

variable {σ τ ε α β : Type}

def run (a : Act σ α) (world : σ) : Outcome σ α :=
  a world

protected def pure (a : α) : Act σ α :=
  fun world => ⟨a, world, []⟩

protected def bind (a : Act σ α) (f : α → Act σ β) : Act σ β := fun world =>
  let first := a world
  let second := f first.result first.world
  ⟨second.result, second.world, first.records ++ second.records⟩

instance : Monad (Act σ) where
  pure := Act.pure
  bind := Act.bind

/-- A step that only acts on the world. -/
def ofWorld (f : σ → α × σ) : Act σ α := fun world =>
  let (a, world) := f world
  ⟨a, world, []⟩

def write (records : List LogRecord) : Act σ Unit :=
  fun world => ⟨(), world, records⟩

def log (level : Level) (logger message : String) : Act σ Unit :=
  write [⟨level, logger, message⟩]

def modify (f : σ → σ) : Act σ Unit :=
  fun world => ⟨(), f world, []⟩

def read (f : σ → α) : Act σ α :=
  fun world => ⟨f world, world, []⟩

/-- Runs a step on a part of a larger world. -/
def zoom (get : τ → σ) (set : σ → τ → τ) (a : Act σ α) : Act τ α := fun world =>
  let out := a (get world)
  ⟨out.result, set out.world world, out.records⟩

/-- Goes on with a result, and stops at an error. -/
def andThen (a : Act σ (Except ε α)) (f : α → Act σ (Except ε β)) : Act σ (Except ε β) := do
  match ← a with
  | .ok x => f x
  | .error e => pure (.error e)

end Act

end ChatHost
