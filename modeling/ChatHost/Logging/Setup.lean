import ChatHost.Logging.Rotation
import ChatHost.Settings.Derived

/-!
Setting logging up as settings ask for it, and writing records. A setup that is refused changes
nothing.
-/

namespace ChatHost.Logging

/-- Where a world keeps what logging needs. -/
structure Outlet (σ : Type) where
  get : σ → Logging
  set : Logging → σ → σ
  files : FileTree.Access σ
  /-- The time as lines show it. -/
  now : Act σ String
  /-- Writes a line to the console. -/
  console : String → Act σ Unit

/-- What a setup asks for besides settings. -/
structure Request where
  debug : Bool := false
  console : Bool := true
  /-- Whether handlers are exchanged even when nothing has changed. -/
  force : Bool := false

def Request.level (r : Request) (s : Settings) : Level :=
  if r.debug || (s .debugLogging).isTruthy then Level.debug else Level.info

def absolute (start : List String) (p : Path) : Path :=
  let parts := if p.root = .relative then start ++ p.parts else p.parts
  let up (above : List String) (name : String) : List String :=
    if name = ".." then above.dropLast else above ++ [name]
  ⟨if p.root = .relative then .absolute else p.root, parts.foldl up []⟩

/-- The log file that settings ask for. No older files are kept when their count is not a number. -/
def logFileOf (s : Settings) (p : Path) : Except Fault LogFile := do
  let limit ← Settings.number (s .logMaxBytes)
  let backups := match Settings.number (s .logBackupCount) with
    | .ok n => n.ceiling
    | .error _ => 0
  return ⟨p, limit.ceiling, backups⟩

namespace Outlet

variable {σ τ α : Type}

/-- What logging needs, in a part of a larger world. -/
def zoom (get : τ → σ) (set : σ → τ → τ) (o : Outlet σ) : Outlet τ where
  get w := o.get (get w)
  set l w := set (o.set l (get w)) w
  files := o.files.zoom get set
  now := o.now.zoom get set
  console line := (o.console line).zoom get set

def deliver (o : Outlet σ) (level : Level) (line : String) : List LogHandler → Act σ Unit
  | [] => return ()
  | h :: handlers => do
    if h.level ≤ level then
      match h.target with
      | .nowhere => pure ()
      | .console => o.console line
      | .file f => o.files.within (.modify (f.write line))
    o.deliver level line handlers

def emit (o : Outlet σ) (level : Level) (name message : String) : Act σ Unit := do
  let logging ← Act.read o.get
  if logging.levelOf name ≤ level then
    let time ← o.now
    o.deliver level (line time level name message) logging.handlers

def emitAll (o : Outlet σ) : List LogRecord → Act σ Unit
  | [] => return ()
  | r :: records => do
    o.emit r.level (fullName r.logger) r.message
    o.emitAll records

/-- Runs a step and writes the records that it leaves. -/
def logged (o : Outlet σ) (a : Act σ α) : Act σ α := fun w =>
  let out := a w
  { out with world := ((o.emitAll out.records).run out.world).world }

def openFile (o : Outlet σ) (s : Settings) (p : Path) : Act σ (Except Fault LogFile) := do
  match ← o.files.ensureDirectories p.parent with
  | .error e => return .error (.os e)
  | .ok () =>
    let start ← o.files.look FileTree.start
    match logFileOf s (absolute start p) with
    | .error f => return .error f
    | .ok file =>
      match ← o.files.update fun t => t.append file.path [] with
      | .error e => return .error (.os e)
      | .ok () => return .ok file

/-- Sets logging up, unless it is already set up like that. -/
def setup (o : Outlet σ) (homes : Path.Homes) (s : Settings) (r : Request) :
    Act σ (Except Fault Path) := do
  let level := r.level s
  match s.logDir.expand? homes with
  | none => return .error .noHome
  | some dir =>
    let path := dir.child fileName
    if (← Act.read fun w => (o.get w).active) = some (path, level) && !r.force then
      return .ok path
    else
      match ← o.openFile s path with
      | .error f => return .error f
      | .ok file =>
        let targets := .file file :: if r.console then [.console] else []
        Act.modify fun w => o.set ((o.get w).install path level targets) w
        Act.log .debug "utils.logging" s!"Logging to {path.text} at {level.name}"
        return .ok path

end Outlet

end ChatHost.Logging
