import ChatHost.Provider.Download
import ChatHost.Provider.Inference
import ChatHost.Provider.Llamafile
import ChatHost.Scripted.Http

/-!
A scripted machine: processes that end or do not end as told, downloads and completions that go as
told, and time that passes at once.
-/

namespace ChatHost.Scripted

inductive ProcessEvent where
  | terminate
  | kill
  | wait (time : Option Number)

/-- A process that follows a script, and what has happened to it so far. -/
structure ProcessScript where
  command : List String
  /-- Whether the process goes on after it has been asked to end. -/
  hangs : Bool := false
  terminateFailure : Option OsError := none
  events : List ProcessEvent := []

inductive CompletionScript where
  | answers (v : Json)
  | fails (t : Completion.Trouble)

/-- A scripted machine, and what has happened on it so far. -/
structure MachineWorld where
  files : FileTree := {}
  web : Web := {}
  spawnFailure : Option OsError := none
  fetchFailure : Option (Failure ProviderError) := none
  completions : List CompletionScript := []
  processes : List ProcessScript := []
  slept : List Number := []
  fetched : List (String × Path) := []
  asked : List (Json Text.Letters) := []

namespace MachineWorld

def pid : Nat :=
  4242

def note (w : MachineWorld) (p : Process) (e : ProcessEvent) : MachineWorld :=
  { w with processes := w.processes.modify p.number fun s => { s with events := s.events ++ [e] } }

def spawn (w : MachineWorld) (command : List String) : Except OsError Process × MachineWorld :=
  match w.spawnFailure with
  | some e => (.error e, w)
  | none =>
    (.ok ⟨w.processes.length, pid⟩, { w with processes := w.processes ++ [{ command := command }] })

def terminateAnswer (w : MachineWorld) (p : Process) : Except OsError Unit :=
  match w.processes[p.number]?.bind ProcessScript.terminateFailure with
  | some e => .error e
  | none => .ok ()

def ends (w : MachineWorld) (p : Process) (time : Option Number) : Bool :=
  time.isNone || !((w.processes[p.number]?.map ProcessScript.hangs).getD false)

def access : FileTree.Access MachineWorld where
  get := files
  set t w := { w with files := t }

def client : Http.Client MachineWorld :=
  Web.client.zoom web fun s w => { w with web := s }

def fetchScripted (url : String) (p : Path) :
    Act MachineWorld (Except (Failure ProviderError) Unit) := do
  Act.modify fun w => { w with fetched := w.fetched ++ [(url, p)] }
  match ← Act.read fetchFailure with
  | some e => return .error e
  | none =>
    match ← (access.ensureDirectories p.parent).andThen fun () =>
        access.update fun t => t.write p (Text.utf8 "llamafile") with
    | .ok () => return .ok ()
    | .error e => return .error (.fault (.os e))

def fetchFromWeb (url : String) (p : Path) :
    Act MachineWorld (Except (Failure ProviderError) Unit) :=
  (Downloader.download { files := access, client := client } url p).andThen fun _ =>
    return .ok ()

def nextCompletion (w : MachineWorld) : Except Completion.Trouble Json :=
  match w.completions with
  | .answers v :: _ => .ok v
  | .fails t :: _ => .error t
  | [] => .error (.fault (.outside .runtime "nothing is scripted"))

def completeScripted (value : Json Text.Letters) :
    Act MachineWorld (Except Completion.Trouble Json) :=
  .ofWorld fun w =>
    (w.nextCompletion, { w with completions := w.completions.drop 1, asked := w.asked ++ [value] })

/-- The machine with the given ways to fetch files and to get completions. -/
def machine (fetch : String → Path → Act MachineWorld (Except (Failure ProviderError) Unit))
    (complete : ServerConfig → Json Text.Letters →
      Act MachineWorld (Except Completion.Trouble Json)) :
    Machine MachineWorld where
  present p := access.look fun t => t.present p
  fetch := fetch
  spawn command := .ofWorld fun w => w.spawn command
  terminate p := .ofWorld fun w => (w.terminateAnswer p, w.note p .terminate)
  wait p time := .ofWorld fun w => (.ok (w.ends p time), w.note p (.wait time))
  kill p := .ofWorld fun w => (.ok (), w.note p .kill)
  sleep time := .modify fun w => { w with slept := w.slept ++ [time] }
  complete := complete

def scripted : Machine MachineWorld :=
  machine fetchScripted fun _ value => completeScripted value

/-- The machine on which downloads follow a script of their own and completions come from the
scripted web. -/
def scriptedWithWeb : Machine MachineWorld :=
  machine fetchScripted (Completion.overHttp client)

/-- The machine on which downloads and completions come from the scripted web. -/
def onWeb : Machine MachineWorld :=
  machine fetchFromWeb (Completion.overHttp client)

end MachineWorld

end ChatHost.Scripted
