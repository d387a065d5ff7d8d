import ChatHost.Cli.Grammar
import ChatHost.Number
import ChatHost.Reading

/-!
From the words of a command line to what is asked for. Options are taken as they come; the first
plain word that no option claims names the command, and all that follows belongs to it.
-/

namespace ChatHost.Cli

structure ChatRequest where
  model : String
  system : Option String := none
  toolEndpoints : List String := []
  temperature : Option Number := none
  topP : Option Number := none
  prompt : Option String := none

inductive Command where
  | chat (r : ChatRequest)
  | download (model : String)
  | catalog
  | settings

/-- What a command line asks for. -/
structure Arguments where
  debug : Bool := false
  settingsPath : Option String := none
  overrides : List String := []
  command : Command

/-- The end of a command line that asks for nothing to be done: an exit code, and what is said. -/
structure Stop where
  code : Nat
  output : String := ""
  errors : String := ""
  deriving DecidableEq, Repr

def Stop.help (f : Form) : Stop :=
  { code := 0, output := f.help }

def Stop.error (f : Form) (message : String) : Stop :=
  { code := 2, errors := s!"{f.usage}{f.name}: error: {message}\n" }

def Stop.flag (f : Form) (flag : Flag) (message : String) : Stop :=
  .error f s!"argument {flag.title}: {message}"

/-- What has been taken from the words of a form so far. -/
structure Taken where
  debug : Bool := false
  settingsPath : Option String := none
  overrides : List String := []
  system : Option String := none
  toolEndpoints : List String := []
  temperature : Option Number := none
  topP : Option Number := none
  prompt : Option String := none
  /-- The plain word that the form has a place for. -/
  model : Option String := none
  command : Option Command := none
  /-- The words that there is no place for. -/
  extras : List String := []
  /-- The words behind the command that there is no place for. -/
  commandExtras : List String := []

def readNumber (f : Form) (flag : Flag) (value : String) : Except Stop Number :=
  match Reading.real value with
  | .ok x => .ok (.real x)
  | .error _ => .error (.flag f flag s!"invalid float value: {Text.quoted value}")

/-- Takes an option with its value, which is empty for an option to which none belongs. -/
def takeFlag (f : Form) (flag : Flag) (value : String) (t : Taken) : Except Stop Taken :=
  match flag.key with
  | .help => .error (.help f)
  | .debug => .ok { t with debug := true }
  | .settingsPath => .ok { t with settingsPath := some value }
  | .override => .ok { t with overrides := t.overrides ++ [value] }
  | .system => .ok { t with system := some value }
  | .toolEndpoint => .ok { t with toolEndpoints := t.toolEndpoints ++ [value] }
  | .temperature => (readNumber f flag value).map fun n => { t with temperature := some n }
  | .topP => (readNumber f flag value).map fun n => { t with topP := some n }
  | .prompt => .ok { t with prompt := some value }

/-- The error of a value for an option to which none belongs. -/
def ignoredValue {α : Type} (f : Form) (flag : Flag) (value : String) : Except Stop α :=
  .error (.flag f flag s!"ignored explicit argument {Text.quoted value}")

/-- Takes an option of a single letter to which no value belongs, and the letters behind it, which
are options as well as far as there are such options. An error in the letters counts first. -/
def takeLetters (f : Form) (flag : Flag) : List Char → Taken → Except Stop Taken
  | [], t => takeFlag f flag "" t
  | '=' :: value, _ => ignoredValue f flag (String.ofList value)
  | '-' :: rest, _ => ignoredValue f flag (String.ofList ('-' :: rest))
  | c :: rest, t =>
    match f.names.lookup (String.ofList ['-', c]) with
    | some next => do takeFlag f flag "" (← takeLetters f next rest t)
    | none => takeFlag f flag "" { t with extras := t.extras ++ [String.ofList ('-' :: c :: rest)] }

def takeWithValue (f : Form) (flag : Flag) (value : String) (t : Taken) : Except Stop Taken :=
  if flag.takesValue then takeFlag f flag value t else ignoredValue f flag value

/-- Takes an option whose value, if one belongs to it, is the next word. Gives the words that are
left. -/
def takeWithNext (f : Form) (flag : Flag) (tokens : List Token) (t : Taken) :
    Except Stop (Taken × List Token) :=
  if !flag.takesValue then (takeFlag f flag "" t).map (·, tokens)
  else
    match tokens with
    | ⟨value, .plain⟩ :: rest => (takeFlag f flag value t).map (·, rest)
    | _ => .error (.flag f flag "expected one argument")

/-- Takes the option with which some words start. Gives the words that are left. -/
def takeOption (f : Form) (first : Token) (rest : List Token) (t : Taken) :
    Except Stop (Taken × List Token) :=
  match first.kind with
  | .option flag _ none => takeWithNext f flag rest t
  | .option flag _ (some value) => (takeWithValue f flag value t).map (·, rest)
  | .letters flag _ behind =>
    (if flag.takesValue then takeFlag f flag (String.ofList behind) t
      else takeLetters f flag behind t).map (·, rest)
  | .unknown | .plain | .separator => .ok ({ t with extras := t.extras ++ [first.word] }, rest)

def Token.isOption (t : Token) : Bool :=
  match t.kind with
  | .option .. | .letters .. | .unknown => true
  | .plain | .separator => false

/-- A plain word with which some words start, perhaps behind a separator, and the words that are
left. A separator right behind the word goes with it. -/
def plainWord? : List Token → Option (String × List Token)
  | ⟨_, .separator⟩ :: ⟨word, .plain⟩ :: rest => some (word, rest)
  | ⟨word, .plain⟩ :: ⟨_, .separator⟩ :: rest => some (word, rest)
  | ⟨word, .plain⟩ :: rest => some (word, rest)
  | _ => none

def Form.wantsModel : Form → Bool
  | .chat | .download => true
  | .program | .catalog | .settings => false

/-- Puts the plain word with which some words start in its place, if there is one. Gives the words
that are left. -/
def takeModel (f : Form) (tokens : List Token) (t : Taken) : Option (Taken × List Token) :=
  if f.wantsModel && t.model.isNone then
    (plainWord? tokens).map fun (word, rest) => ({ t with model := some word }, rest)
  else none

/-- Takes the plain words that no option claims, at the front of some words. -/
abbrev TakePlain := List Token → Taken → Except Stop (Option (Taken × List Token))

/-- Puts words aside up to the first that looks like an option, and takes that one. -/
def skipToOption (f : Form) (tokens : List Token) (t : Taken) :
    Except Stop (Taken × List Token) :=
  let skipped := tokens.takeWhile fun k => !k.isOption
  let t := { t with extras := t.extras ++ skipped.map Token.word }
  match tokens.dropWhile fun k => !k.isOption with
  | [] => .ok (t, [])
  | first :: rest => takeOption f first rest t

/-- Takes the last words, among which there is none that looks like an option. -/
def takeLast (plain : TakePlain) (tokens : List Token) (t : Taken) : Except Stop Taken := do
  let (t, rest) := (← plain tokens t).getD (t, tokens)
  return { t with extras := t.extras ++ rest.map Token.word }

/-- Takes some words. Every round takes at least one of them; the number bounds the rounds. -/
def takeAll (f : Form) (plain : TakePlain) : Nat → List Token → Taken → Except Stop Taken
  | 0, _, t => .ok t
  | rounds + 1, tokens, t =>
    if !tokens.any Token.isOption then takeLast plain tokens t
    else do
      let startsPlain := (tokens.head?.map fun k => !k.isOption).getD false
      match ← if startsPlain then plain tokens t else pure none with
      | some (t, rest) => takeAll f plain rounds rest t
      | none =>
        let (t, rest) ← skipToOption f tokens t
        takeAll f plain rounds rest t

def takeWords (f : Form) (plain : TakePlain) (words : List String) : Except Stop Taken := do
  let tokens ← (readWords f words).mapError (Stop.error f)
  takeAll f plain (words.length + 1) tokens {}

def commandForms : List (String × Form) :=
  [("chat", .chat), ("download", .download), ("catalog", .catalog), ("settings", .settings)]

def commandOf (f : Form) (t : Taken) : Option Command :=
  match f, t.model with
  | .chat, some model => some (.chat {
      model := model
      system := t.system
      toolEndpoints := t.toolEndpoints
      temperature := t.temperature
      topP := t.topP
      prompt := t.prompt })
  | .download, some model => some (.download model)
  | .catalog, _ => some .catalog
  | .settings, _ => some .settings
  | _, _ => none

def readCommand (f : Form) (words : List String) : Except Stop (Command × List String) := do
  let t ← takeWords f (fun tokens t => .ok (takeModel f tokens t)) words
  match commandOf f t with
  | some command => return (command, t.extras)
  | none => .error (.error f "the following arguments are required: model")

def invalidCommand (word : String) : Stop :=
  let names := ", ".intercalate (commandForms.map fun c => Text.quoted c.1)
  .error .program
    s!"argument command: invalid choice: {Text.quoted word} (choose from {names})"

/-- Takes a command with all that follows it. A separator in front counts as the name. -/
def takeCommand : TakePlain := fun tokens t =>
  match t.command, plainWord? tokens, tokens with
  | none, some _, first :: rest =>
    match commandForms.lookup first.word with
    | none => .error (invalidCommand first.word)
    | some form => do
      let (command, extras) ← readCommand form (rest.map Token.word)
      return some ({ t with command := some command, commandExtras := extras }, [])
  | _, _, _ => .ok none

def parse (words : List String) : Except Stop Arguments := do
  let t ← takeWords .program takeCommand words
  let extras := " ".intercalate (t.extras ++ t.commandExtras)
  if !(t.extras ++ t.commandExtras).isEmpty then
    throw (.error .program s!"unrecognized arguments: {extras}")
  match t.command with
  | none => throw { code := 2, errors := Form.program.usage }
  | some command => return ⟨t.debug, t.settingsPath, t.overrides, command⟩

end ChatHost.Cli
