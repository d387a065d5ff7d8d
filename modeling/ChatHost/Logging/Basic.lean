import ChatHost.Log
import ChatHost.Path

/-!
Where log records go. Handlers take the lines of records from some level on, to a file or to the
console; other parts of a program may have handlers of their own. Those that were installed here are
known by their numbers, so that they can be exchanged and the others stay.
-/

namespace ChatHost

/-- A log file. When it would grow to a limit it is put aside, and some older ones are kept; with a
limit that is not positive it grows on. -/
structure LogFile where
  path : Path
  limit : Int
  backups : Int
  deriving DecidableEq, Repr

inductive LogHandler.Target where
  | nowhere
  | file (f : LogFile)
  | console
  deriving DecidableEq, Repr

structure LogHandler where
  /-- Tells the handler from all others. -/
  number : Nat
  level : Level
  target : LogHandler.Target
  deriving DecidableEq, Repr

structure Logging where
  /-- The log file and the level of the last setup. -/
  active : Option (Path × Level) := none
  handlers : List LogHandler := []
  /-- The numbers of the handlers of the last setup. -/
  installed : List Nat := []
  level : Level := Level.warning
  /-- Whether the loggers of other parts are held to warnings. -/
  quiet : Bool := false
  /-- A number that no handler has had. -/
  next : Nat := 1
  deriving DecidableEq, Repr

namespace Logging

def fileName : String :=
  "llm_driver.log"

def hostLogger : String :=
  "blessnet_llm"

def fullName (logger : String) : String :=
  s!"{hostLogger}.{logger}"

def quietLoggers : List String :=
  ["asyncio", "httpx", "httpcore", "openai", "mcp"]

def isBelow (above : String) (name : String) : Bool :=
  name = above || (above ++ ".").toList.isPrefixOf name.toList

/-- The least level of the records that a logger lets through. -/
def levelOf (l : Logging) (name : String) : Level :=
  if l.quiet && quietLoggers.any (isBelow · name) then Level.warning else l.level

def levelColumn (level : Level) : String :=
  String.ofList (level.name.toList ++ List.replicate (8 - level.name.length) ' ')

/-- The name of a logger as lines show it. The logger above all others has no name of its own. -/
def shownName (name : String) : String :=
  if name.isEmpty then "root" else name

def line (time : String) (level : Level) (name message : String) : String :=
  s!"{time} | {levelColumn level} | {shownName name} | {message}"

def attach (h : LogHandler) (l : Logging) : Logging :=
  if l.handlers.any fun k => k.number = h.number then l
  else { l with handlers := l.handlers ++ [h] }

def isInstalled (l : Logging) (h : LogHandler) : Bool :=
  l.installed.contains h.number

def handlersFor (level : Level) (targets : List LogHandler.Target) (number : Nat) :
    List LogHandler :=
  targets.zipIdx.map fun (target, i) => ⟨number + i, level, target⟩

/-- Puts handlers for the given targets in the place of those of the last setup. -/
def install (path : Path) (level : Level) (targets : List LogHandler.Target) (l : Logging) :
    Logging :=
  let fresh := handlersFor level targets l.next
  { active := some (path, level)
    handlers := (l.handlers.filter fun h => !l.isInstalled h) ++ fresh
    installed := fresh.map LogHandler.number
    level := level
    quiet := true
    next := l.next + targets.length }

def path? (l : Logging) : Option Path :=
  l.active.map Prod.fst

end Logging

end ChatHost
