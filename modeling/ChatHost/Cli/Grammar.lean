import ChatHost.Cli.Usage
import ChatHost.Text.Digit
import ChatHost.Text.Quoted

/-!
The options that each form of the command line knows, and what a word on it may be: an option,
perhaps shortened and perhaps with a value behind an equals sign, or a plain word.
-/

namespace ChatHost.Cli

inductive Key where
  | help
  | debug
  | settingsPath
  | override
  | system
  | toolEndpoint
  | temperature
  | topP
  | prompt
  deriving DecidableEq, Repr

/-- An option: the ways to write it, and whether a value belongs to it. -/
structure Flag where
  key : Key
  names : List String
  takesValue : Bool
  deriving DecidableEq, Repr

def helpFlag : Flag :=
  ⟨.help, ["-h", "--help"], false⟩

def Form.flags : Form → List Flag
  | .program => [helpFlag, ⟨.debug, ["--debug"], false⟩,
      ⟨.settingsPath, ["--settings-path"], true⟩, ⟨.override, ["--set"], true⟩]
  | .chat => [helpFlag, ⟨.system, ["--system"], true⟩, ⟨.toolEndpoint, ["--tool-endpoint"], true⟩,
      ⟨.temperature, ["--temperature"], true⟩, ⟨.topP, ["--top-p"], true⟩,
      ⟨.prompt, ["--prompt"], true⟩]
  | .download | .catalog | .settings => [helpFlag]

/-- The ways to write the options of a form, each with the option. -/
def Form.names (f : Form) : List (String × Flag) :=
  f.flags.flatMap fun flag => flag.names.map fun name => (name, flag)

def Flag.title (f : Flag) : String :=
  "/".intercalate f.names

inductive WordKind where
  | plain
  /-- The word behind which all words are plain. -/
  | separator
  /-- An option by one of its names, perhaps with a value. -/
  | option (flag : Flag) (name : String) (value : Option String)
  /-- An option of a single letter with more letters right behind it. -/
  | letters (flag : Flag) (name : String) (behind : List Char)
  /-- A word that looks like an option and is none. -/
  | unknown
  deriving DecidableEq, Repr

structure Token where
  word : String
  kind : WordKind

def startsWith (s start : String) : Bool :=
  start.toList.isPrefixOf s.toList

def cutValue (word : String) : String × Option String :=
  let (name, value) := Text.cutFirst '=' word.toList
  (String.ofList name, value.map String.ofList)

def longCandidates (f : Form) (word : String) : List WordKind :=
  let (start, value) := cutValue word
  f.names.filterMap fun (name, flag) =>
    if startsWith name start then some (.option flag name value) else none

/-- The options that a word with one dash may stand for: one of a single letter with something right
behind it, or one that the word is short for. -/
def shortCandidates (f : Form) (word : String) : List WordKind :=
  let letter := String.ofList (word.toList.take 2)
  f.names.filterMap fun (name, flag) =>
    if name = letter then some (.letters flag name (word.toList.drop 2))
    else if startsWith name word then some (.option flag name none)
    else none

def candidates (f : Form) (word : String) : List WordKind :=
  if startsWith word "--" then longCandidates f word else shortCandidates f word

def isDigit (c : Char) : Bool :=
  (Text.digitValue? c).isSome

def isNegativeNumber (word : String) : Bool :=
  let body := word.toList.drop 1
  let body := if body.getLast? = some '\n' then body.dropLast else body
  match Text.cutFirst '.' body with
  | (whole, none) => !whole.isEmpty && whole.all isDigit
  | (whole, some fraction) => whole.all isDigit && !fraction.isEmpty && fraction.all isDigit

/-- The option that a word names in full, perhaps with a value. -/
def inFull? (f : Form) (word : String) : Option WordKind :=
  match f.names.lookup word, cutValue word with
  | some flag, _ => some (.option flag word none)
  | none, (name, some value) =>
    if word.length = 1 then none else (f.names.lookup name).map (.option · name (some value))
  | none, (_, none) => none

def namesOf (kinds : List WordKind) : List String :=
  kinds.filterMap fun
    | .option _ name _ | .letters _ name _ => some name
    | .plain | .separator | .unknown => none

/-- What a word with a dash in front is when it names no option in full. -/
def readShortened (f : Form) (word : String) : Except String WordKind :=
  match candidates f word with
  | [one] => .ok one
  | [] =>
    if isNegativeNumber word || word.toList.contains ' ' then .ok .plain else .ok .unknown
  | several =>
    let names := ", ".intercalate (namesOf several)
    .error s!"ambiguous option: {word} could match {names}"

def readWord (f : Form) (word : String) : Except String WordKind :=
  if !startsWith word "-" then .ok .plain
  else
    match inFull? f word with
    | some r => .ok r
    | none => if word.length = 1 then .ok .plain else readShortened f word

/-- What some words are. Behind a separator all of them are plain. -/
def readWords (f : Form) : List String → Except String (List Token)
  | [] => .ok []
  | word :: words =>
    if word = "--" then .ok (⟨word, .separator⟩ :: words.map fun w => ⟨w, .plain⟩)
    else do
      let kind ← readWord f word
      let tokens ← readWords f words
      return ⟨word, kind⟩ :: tokens

end ChatHost.Cli
