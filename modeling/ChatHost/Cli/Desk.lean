import ChatHost.Cli.Run
import ChatHost.Host.Fleet
import ChatHost.Http.Location
import ChatHost.Provider.Inference
import ChatHost.Schema.Evaluation

/-!
A desk: a place at which command lines run with files and a clock, and from which neither the web
nor a process of its own can be reached. Every attempt to reach one fails like on a machine that is
not connected.
-/

namespace ChatHost.Cli

/-- A desk, and what has been written at it. -/
structure Desk where
  files : FileTree := {}
  logging : Logging := {}
  fleet : Fleet := {}
  /-- The time as log lines show it. -/
  clock : String := ""
  output : String := ""
  errors : String := ""

namespace Desk

def access : FileTree.Access Desk where
  get := files
  set t d := { d with files := t }

def complain (text : String) : Act Desk (Except Fault Unit) := do
  Act.modify fun d => { d with errors := d.errors ++ text }
  return .ok ()

def outlet : Logging.Outlet Desk where
  get := logging
  set l d := { d with logging := l }
  files := access
  now := .read clock
  console line := do
    let _ ← complain (line ++ "\n")

/-- The error of the operating system when there is no way to the network. -/
def unreachable : OsError :=
  { number := 101, text := "Network is unreachable" }

/-- The error of the operating system when no process can be started. -/
def unsupported : OsError :=
  { number := 38, text := "Function not implemented" }

def client : Http.Client Desk where
  rules := .standard
  send _ := return .error ⟨.transport, unreachable.message⟩

def transport : Tool.Transport Desk where
  connect _ := return .error (.os unreachable)
  list _ := return .error (.os unreachable)
  call _ _ _ := return .error (.os unreachable)
  close _ := return .ok ()

def fetch (s : Settings) (url : String) (p : Path) :
    Act Desk (Except (Failure ProviderError) Unit) :=
  match s.chunkSize with
  | .error f => return .error (.fault f)
  | .ok size =>
    let d : Downloader Desk := { files := access, client := client, chunkSize := size }
    (d.download url p).andThen fun _ => return .ok ()

def machine (s : Settings) : Machine Desk where
  present p := access.look fun t => t.present p
  fetch := fetch s
  spawn _ := return .error unsupported
  terminate _ := return .error unsupported
  wait _ _ := return .error unsupported
  kill _ := return .error unsupported
  sleep _ := pure ()
  complete := Completion.overHttp client

def place : Fleet.Place Desk where
  get := fleet
  set f d := { d with fleet := f }

/-- What a command line finds at the desk on a day. Nothing is put in: no session is started
here. -/
def system (homes : Path.Homes) (env : Environment) (today : Date) : System Desk where
  files := access
  logs := outlet
  client := client
  print text := do
    Act.modify fun d => { d with output := d.output ++ text }
    return .ok ()
  complain := complain
  input := ""
  await := return .ok ()
  environment := env
  homes := homes
  surroundings s := return place.surroundings (machine s) Schema.validator transport (pure today) s

/-- The settings under which a command line runs, as far as the files at hand tell. -/
def settings? (homes : Path.Homes) (env : Environment) (files : FileTree) (a : Arguments) :
    Option Settings :=
  let sys := system homes env ⟨1, 1, 1⟩
  match sys.settingsPath a, Settings.parseOverrides homes a.overrides with
  | .ok p, .ok overrides => ((sys.loadSettings p overrides).run { files := files }).result.toOption
  | _, _ => none

/-- How many older log files are looked for. -/
def mostBackups : Nat :=
  99

/-- The log file that settings ask for, and the older ones beside it. -/
def logPaths (homes : Path.Homes) (s : Settings) : List Path :=
  match s.logDir.expand? homes with
  | none => []
  | some dir =>
    match Logging.logFileOf s (dir.child Logging.fileName) with
    | .error _ => []
    | .ok file =>
      let older := List.range (min file.backups.toNat mostBackups)
      file.path :: older.map fun i => file.backup (i + 1)

def modelPaths (s : Settings) (a : Arguments) : List Path :=
  let named (name : String) : List Path :=
    match Model.choose s.policy name with
    | .model m => [s.modelPath m]
    | .unsupported .. => []
  match a.command with
  | .download name => named name
  | .chat r => named r.model
  | .catalog | .settings => []

end Desk

end ChatHost.Cli
