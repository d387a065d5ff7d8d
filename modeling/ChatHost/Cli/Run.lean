import ChatHost.Cli.Arguments
import ChatHost.Host.Close
import ChatHost.Host.Configure
import ChatHost.Host.Round
import ChatHost.Host.Start
import ChatHost.Logging.Setup
import ChatHost.Provider.Download
import ChatHost.Settings.Override
import ChatHost.Settings.Store

/-!
Running a command line. The settings come first, then logging; the chat command works through a host
of its own, which it leaves without sessions.
-/

namespace ChatHost.Cli

/-- What a command line finds in the outside world. -/
structure System (σ : Type) where
  files : FileTree.Access σ
  logs : Logging.Outlet σ
  client : Http.Client σ
  /-- Writes text for whoever asked. -/
  print : String → Act σ (Except Fault Unit)
  /-- Writes text about what went wrong. -/
  complain : String → Act σ (Except Fault Unit)
  /-- All that is put in until nothing more comes. It is read line by line. -/
  input : String
  /-- Waits for a line that is put in, or for the end. -/
  await : Act σ (Except Fault Unit)
  environment : Environment
  homes : Path.Homes
  /-- Makes what a host needs under some settings. -/
  surroundings : Settings → Act σ (Surroundings σ)

def success : Nat :=
  0

def failure : Nat :=
  1

/-- The exit code of a command line that asks for nothing that can be done. -/
def misuse : Nat :=
  2

def logger : String :=
  "cli"

def settingsVariable : String :=
  "BLESSNET_LLM_SETTINGS_PATH"

namespace System

variable {σ α : Type}

/-- Runs a step of the host and writes the records that it leaves. -/
def logged (sys : System σ) (a : Act (Host σ) α) : Act (Host σ) α :=
  (sys.logs.zoom Host.world fun w h => { h with world := w }).logged a

/-! ### Settings -/

/-- The text behind a key, unless it is empty. -/
def nonempty? (s : Option String) : Option String :=
  s.filter fun s => !s.isEmpty

def settingsPath (sys : System σ) (a : Arguments) : Except Fault Path :=
  let named := (nonempty? a.settingsPath).or
    (nonempty? (OrderedMap.get? sys.environment settingsVariable))
  match named with
  | none => .ok (Settings.defaultFile sys.homes.own)
  | some s =>
    match (Path.ofString s).expand? sys.homes with
    | some p => .ok p
    | none => .error .noHome

def loadSettings (sys : System σ) (p : Path) (overrides : OrderedMap Field Settings.Given) :
    Act σ (Except Fault Settings) :=
  sys.files.within (Settings.load ⟨sys.homes, sys.environment⟩ p
    (overrides.map fun (f, given) => (f.name, given)))

def hostVariables (env : Environment) : List String :=
  ((OrderedMap.keys env).filter fun name => startsWith name "BLESSNET_").mergeSort (· ≤ ·)

def settingsReport (sys : System σ) (s : Settings) (p : Path)
    (overrides : OrderedMap Field Settings.Given) (log : Option Path) : Json :=
  let names := ((OrderedMap.keys overrides).map Field.name).mergeSort (· ≤ ·)
  .obj [
    ("settings", s.toJson),
    ("meta", .obj [
      ("path", .str p.text),
      ("log_path", .ofOption (fun p => .str p.text) log),
      ("cli_overrides", .ofStrings names),
      ("environment_variables", .ofStrings (hostVariables sys.environment))])]

def showSettings (sys : System σ) (s : Settings) (p : Path)
    (overrides : OrderedMap Field Settings.Given) : Act σ (Except Fault Nat) := do
  let log := (← Act.read sys.logs.get).path?
  (sys.print ((sys.settingsReport s p overrides log).render ⟨true, some 2⟩ ++ "\n")).andThen
    fun () => return .ok success

/-! ### The catalog and downloads -/

def catalogText : String :=
  let names := (Model.knownEntries.map fun e => (e.name, e)).mergeSort fun a b => a.1 ≤ b.1
  String.join (names.map fun (name, e) => s!"{name}\t{(Model.catalog e none).fileName}\n")

def showCatalog (sys : System σ) : Act σ (Except Fault Nat) :=
  (sys.print catalogText).andThen fun () => return .ok success

def fail (sys : System σ) (message : String) : Act σ (Except Fault Nat) :=
  (sys.complain s!"error: {message}\n").andThen fun () => return .ok failure

def tell (sys : System σ) (p : Path) : Act σ (Except Fault Nat) :=
  (sys.print s!"{p.text}\n").andThen fun () => return .ok success

def fetch (sys : System σ) (s : Settings) (m : Model) (p : Path) : Act σ (Except Fault Nat) := do
  match s.chunkSize with
  | .error f => return .error f
  | .ok size =>
    let d : Downloader σ := { files := sys.files, client := sys.client, chunkSize := size }
    match ← sys.logs.logged (d.download m.downloadUrl p) with
    | .ok p => sys.tell p
    | .error (.known e) => sys.fail e.message
    | .error (.fault f) => return .error f

def download (sys : System σ) (s : Settings) (name : String) : Act σ (Except Fault Nat) := do
  let choice := Model.choose s.policy name
  sys.logs.logged (Act.write choice.records)
  match choice with
  | .unsupported candidate _ =>
    sys.fail (HostError.of .modelNotSupported (Model.unsupportedMessage candidate)).line
  | .model m =>
    let p := s.modelPath m
    match ← sys.files.look fun t => t.present p with
    | .error e => return .error (.os e)
    | .ok true => sys.tell p
    | .ok false => sys.fetch s m p

/-! ### Chat -/

/-- The check of a model's URL: whoever writes a command line has chosen it. -/
def allowUrl : UrlCheck σ := fun parts => do
  let url := String.ofList parts.unsplit
  Act.log .debug logger s!"Allowing command line model URL {url}"
  return .ok true

def exitWords : List String :=
  ["/exit", "/quit"]

/-- Runs a step with the terminal from within a host, where its failure is a fault. -/
def terminal (a : Act σ (Except Fault Unit)) : Act (Host σ) (Except (Failure HostError) Unit) := do
  return (← Host.within a).mapError .fault

def say (sys : System σ) (text : String) : Act (Host σ) (Except (Failure HostError) Unit) :=
  terminal (sys.print text)

def turn (sys : System σ) (env : Surroundings σ) (handle : Handle) (text : String) :
    Act (Host σ) (Except (Failure HostError) Unit) :=
  (sys.logged (Host.prompt handle (.text text))).andThen fun () =>
  (sys.logged (Host.readResponse env handle)).andThen fun reply =>
  sys.say s!"{reply}\n"

/-- Takes turns with whoever puts lines in, until a line ends the conversation or there is none.
What is still to be read is given. -/
def takeTurns (sys : System σ) (env : Surroundings σ) (handle : Handle) (source : List Char) :
    Act (Host σ) (Except (Failure HostError) Unit) :=
  (sys.say "> ").andThen fun () =>
  (terminal sys.await).andThen fun () =>
    if _hend : (Text.readLine source).1 = [] then return .ok ()
    else
      let text := Text.strip (String.ofList (Text.readLine source).1)
      if text.isEmpty then sys.takeTurns env handle (Text.readLine source).2
      else if exitWords.contains text then return .ok ()
      else (sys.turn env handle text).andThen fun () =>
        sys.takeTurns env handle (Text.readLine source).2
termination_by source.length
decreasing_by all_goals exact Text.length_readLine_lt _hend

/-- The options of a session that a command line asks for. -/
def optionsOf (r : ChatRequest) : Options where
  systemMessage := r.system.map .ofString
  toolEndpoints := if r.toolEndpoints.isEmpty then none else some (r.toolEndpoints.map .ofString)
  temperature := r.temperature
  topP := r.topP

/-- Converses in a session: one turn when the command line holds a prompt, and otherwise turns with
whoever puts lines in. -/
def converse (sys : System σ) (env : Surroundings σ) (handle : Handle) (r : ChatRequest) :
    Act (Host σ) (Except (Failure HostError) Unit) :=
  (sys.logged (Host.setOptions env handle (.given (optionsOf r)))).andThen fun () =>
    match r.prompt with
    | some text => sys.turn env handle text
    | none => sys.takeTurns env handle sys.input.toList

/-- Starts a session, converses in it, and closes it whatever has happened. An error of the close
counts before one of the conversation. -/
def runSession (sys : System σ) (env : Surroundings σ) (r : ChatRequest) :
    Act (Host σ) (Except (Failure HostError) Unit) :=
  (sys.logged (Host.setModel env (.text r.model) (some allowUrl))).andThen fun handle => do
    let conversed ← sys.converse env handle r
    match ← sys.logged (Host.close env handle) with
    | .error e => return .error e
    | .ok () => return conversed

def chat (sys : System σ) (s : Settings) (r : ChatRequest) :
    Act (Host σ) (Except Fault Nat) := do
  let env ← Host.within (sys.surroundings s)
  match ← sys.runSession env r with
  | .ok () => return .ok success
  | .error (.known e) => Host.within (sys.fail e.line)
  | .error (.fault f) => return .error f

/-! ### Commands -/

def runCommand (sys : System σ) (a : Arguments) (s : Settings) (p : Path)
    (overrides : OrderedMap Field Settings.Given) : Act (Host σ) (Except Fault Nat) :=
  match a.command with
  | .catalog => Host.within sys.showCatalog
  | .settings => Host.within (sys.showSettings s p overrides)
  | .download model => Host.within (sys.download s model)
  | .chat r => sys.chat s r

def prepare (sys : System σ) (a : Arguments) (overrides : OrderedMap Field Settings.Given) :
    Act σ (Except Fault (Settings × Path)) := do
  match sys.settingsPath a with
  | .error f => return .error f
  | .ok p =>
    (sys.loadSettings p overrides).andThen fun s =>
    (sys.logs.logged (sys.logs.setup sys.homes s { debug := a.debug })).andThen fun log => do
      sys.logs.logged (Act.log .debug logger
        s!"Settings loaded from {p.text}; logging to {log.text}")
      return .ok (s, p)

def runArguments (sys : System σ) (a : Arguments) : Act (Host σ) (Except Fault Nat) :=
  match Settings.parseOverrides sys.homes a.overrides with
  | .error .noHome => return .error .noHome
  | .error f =>
    (Host.within (sys.complain s!"Invalid --set override: {f.message}\n")).andThen fun () =>
      return .ok misuse
  | .ok overrides =>
    (Host.within (sys.prepare a overrides)).andThen fun (s, p) =>
    sys.runCommand a s p overrides

/-- Writes text that may get lost where the operating system fails. -/
def attempt (write : Act σ (Except Fault Unit)) : Act σ (Except Fault Unit) := do
  match ← write with
  | .error (.os _) => return .ok ()
  | outcome => return outcome

/-- Runs a command line and gives its exit code. -/
def run (sys : System σ) (words : List String) : Act (Host σ) (Except Fault Nat) :=
  match parse words with
  | .ok a => sys.runArguments a
  | .error stop =>
    (Host.within (attempt (sys.print stop.output))).andThen fun () =>
    (Host.within (attempt (sys.complain stop.errors))).andThen fun () =>
      return .ok stop.code

end System

end ChatHost.Cli
