import ChatHost.Model.Basic
import ChatHost.Provider.Machine

/-!
Providers that run a model which is an executable file: the file is downloaded when it is missing, a
process serves it, and completions are asked for over the web.
-/

namespace ChatHost

/-- How a provider that runs a llamafile is set up. -/
structure Llamafile where
  model : Model
  path : Path
  startupDelay : Number := .real 1.0
  shutdownTimeout : Number := .real 10.0
  retries : Completion.Retries := {}
  debugLogging : Bool := false

namespace Llamafile

inductive Stage where
  | uninitialized
  | downloading
  | serving
  | shuttingDown
  | terminated
  | failed
  deriving DecidableEq, Repr

def Stage.name : Stage → String
  | .uninitialized => "UNINITIALIZED"
  | .downloading => "DOWNLOADING"
  | .serving => "SERVING"
  | .shuttingDown => "SHUTTING_DOWN"
  | .terminated => "TERMINATED"
  | .failed => "FAILED"

structure Status where
  stage : Stage := .uninitialized
  config : Option ServerConfig := none
  process : Option Process := none

structure Running (σ : Type) where
  status : Status := {}
  world : σ

def logger : String :=
  "providers.llamafile"

variable {σ α : Type}

/-- Runs a step in the world of a provider. -/
def within (a : Act σ α) : Act (Running σ) α :=
  a.zoom Running.world fun w r => { r with world := w }

def note (f : Status → Status) : Act (Running σ) Unit :=
  .modify fun r => { r with status := f r.status }

def enter (s : Stage) : Act (Running σ) Unit :=
  note fun status => { status with stage := s }

def command (l : Llamafile) (config : ServerConfig) : List String :=
  [l.path.text, "--server", "--nobrowser", "--host", config.host.toText, "--port",
    config.port.toText]

def spawnFailure (l : Llamafile) (e : OsError) : ProviderError :=
  if e.number = 2 then ⟨.notFound, s!"LlamaFile not found: {l.path.text}"⟩
  else if e.number = 1 ∨ e.number = 13 then
    ⟨.permission, "Permission denied; please re-download the model"⟩
  else ⟨.server, s!"Failed to start llamafile server: {e.message}"⟩

def obtain (l : Llamafile) (m : Machine σ) :
    Act (Running σ) (Except (Failure ProviderError) Unit) := do
  match ← within (m.present l.path) with
  | .error e => return .error (.fault (.os e))
  | .ok true => return .ok ()
  | .ok false =>
    enter .downloading
    Act.log .info logger s!"Model {l.model.label} is not cached; downloading"
    within (m.fetch l.model.downloadUrl l.path)

def spawn (l : Llamafile) (m : Machine σ) (config : ServerConfig) :
    Act (Running σ) (Except (Failure ProviderError) Unit) := do
  let words := " ".intercalate (l.command config)
  Act.log .debug logger s!"Spawning llamafile server: {words}"
  match ← within (m.spawn (l.command config)) with
  | .error e => return .error (.known (l.spawnFailure e))
  | .ok process =>
    note fun status => { status with process := some process }
    return .ok ()

def pidWord (process : Option Process) : String :=
  match process with
  | none => "None"
  | some p => toString p.pid

def serve (l : Llamafile) (m : Machine σ) (config : ServerConfig) : Act (Running σ) Unit := do
  if (Number.int 0).less l.startupDelay then within (m.sleep l.startupDelay)
  enter .serving
  let pid := pidWord (← Act.read fun r => r.status.process)
  Act.log .info logger
    s!"Llamafile server for {l.model.label} listening on {config.baseUrl} (pid {pid})"

/-- Brings a provider to the stage in which it serves. A failure to do so that a provider reports
leaves it failed. -/
def start (l : Llamafile) (m : Machine σ) (config : ServerConfig) :
    Act (Running σ) (Except (Failure ProviderError) Unit) := do
  note fun status => { status with config := some config }
  match ← (l.obtain m).andThen fun () => l.spawn m config with
  | .ok () =>
    l.serve m config
    return .ok ()
  | .error (.fault f) => return .error (.fault f)
  | .error (.known e) =>
    if e.kind.isInitialization then enter .failed
    return .error (.known e)

/-- Waits for a process that has been asked to end, and makes it end when this takes too long. -/
def await (l : Llamafile) (m : Machine σ) (p : Process) : Act σ (Except OsError Unit) :=
  (m.wait p (some l.shutdownTimeout)).andThen fun ended =>
    if ended then return .ok ()
    else do
      let time := String.ofList
        (Decimal.fixed 1 (l.shutdownTimeout.toReal?.getD (Decimal.infinity false)))
      Act.log .warning logger
        s!"Llamafile server (pid {p.pid}) ignored terminate for {time}s; killing"
      (m.kill p).andThen fun () =>
      (m.wait p none).andThen fun _ =>
      return .ok ()

def stop (l : Llamafile) (m : Machine σ) (p : Process) :
    Act (Running σ) (Except (Failure ProviderError) Unit) := do
  enter .shuttingDown
  Act.log .info logger s!"Stopping llamafile server (pid {p.pid})"
  match ← within ((m.terminate p).andThen fun () => l.await m p) with
  | .ok () =>
    enter .terminated
    return .ok ()
  | .error e =>
    enter .failed
    return .error (.known ⟨.shutdown, s!"Failed to stop llamafile server: {e.message}"⟩)

/-- Shuts a provider down. The process is given up before it is ended, so that a further call does
nothing. -/
def shutdown (l : Llamafile) (m : Machine σ) :
    Act (Running σ) (Except (Failure ProviderError) Unit) := do
  let process ← Act.read fun r => r.status.process
  note fun status => { status with process := none }
  match process with
  | some p => l.stop m p
  | none =>
    if (← Act.read fun r => r.status.stage) = .serving then enter .terminated
    return .ok ()

/-- Lets go of a provider: a process that is still there is ended, and an error of the provider is
only recorded. -/
def release (l : Llamafile) (m : Machine σ) : Act (Running σ) (Except Fault Unit) := do
  match ← Act.read fun r => r.status.process with
  | none => return .ok ()
  | some _ =>
    match ← l.shutdown m with
    | .ok () => return .ok ()
    | .error (.fault f) => return .error f
    | .error (.known e) =>
      Act.log .debug logger s!"Shutdown on release failed: {e.message}"
      return .ok ()

/-- The failure of a request to a provider that does not serve. -/
def notServing (s : Stage) : Failure ProviderError :=
  .known ⟨.communication, s!"Provider is not serving (state {s.name})"⟩

def requestRecords (l : Llamafile) (config : ServerConfig) (r : Request) : List LogRecord :=
  let count := r.messages.length
  ⟨.debug, logger, s!"Chat completion request with {count} message(s) to {config.baseUrl}"⟩ ::
    if l.debugLogging then
      [⟨.debug, logger, "Chat payload:\n" ++ (Completion.payload r).render ⟨false, some 2⟩⟩]
    else []

def complete (l : Llamafile) (m : Machine σ) (config : ServerConfig) (r : Request) :
    Act σ (Except (Failure ProviderError) (Message String)) := do
  let attempt := m.complete config (Completion.payload r)
  match ← Completion.tryFor attempt l.retries.wait m.sleep (l.retries.count - 1) 0 with
  | .error trouble => return .error trouble.failure
  | .ok answer => return Completion.read answer

def chat (l : Llamafile) (m : Machine σ) (r : Request) :
    Act (Running σ) (Except (Failure ProviderError) (Message String)) := do
  let status ← Act.read Running.status
  match status.config, status.stage with
  | some config, .serving =>
    Act.write (l.requestRecords config r)
    within (l.complete m config r)
  | _, stage => return .error (notServing stage)

def provider (l : Llamafile) (m : Machine σ) : Provider (Running σ) where
  start := l.start m
  ask _ := pure ()
  answer := l.chat m
  shutdown := l.shutdown m

end Llamafile

end ChatHost
