import ChatHost.Fault
import ChatHost.Log
import ChatHost.Settings.Field

/-!
Layers of settings. What a file, a caller or the environment gives for some fields is brought to the
kinds of these fields and laid over the settings below.
-/

namespace ChatHost

namespace Settings

def logger : String :=
  "settings"

inductive Given where
  | json (v : Json)
  | path (p : Path)

def Given.toJson : Given → Json
  | .json v => v
  | .path p => .str p.text

/-- The path that is given, with a home directory in place of a mark for one. -/
def readPath (homes : Path.Homes) (g : Given) : Except Fault Path :=
  let expanded (p : Path) : Except Fault Path :=
    match p.expand? homes with
    | some p => .ok p
    | none => .error .noHome
  match g with
  | .path p => expanded p
  | .json (.str s) => expanded (Path.ofString s)
  | .json v =>
    .error (.mistyped s!"expected str, bytes or os.PathLike object, not {v.typeWord}")

/-- The list that is given; a text is a list of one, and an object the list of its keys. -/
def readNames (g : Given) : Except Fault (List Json) :=
  match g with
  | .path _ => .error (.mistyped "'PosixPath' object is not iterable")
  | .json (.str s) => .ok [.str s]
  | .json (.arr items) => .ok items
  | .json (.obj members) => .ok ((OrderedMap.keys members).map .str)
  | .json v => .error (.mistyped s!"'{v.typeWord}' object is not iterable")

def readValue (homes : Path.Homes) (g : Given) : (k : Field.Kind) → Except Fault k.Value
  | .path => readPath homes g
  | .names => readNames g
  | .text | .whole | .real | .flag => .ok g.toJson

def Layer := (f : Field) → Option f.kind.Value

def Layer.over (l : Layer) (s : Settings) : Settings :=
  fun f => (l f).getD (s f)

/-- The fields whose values may be refused, in the order in which they are read. -/
def refusable : List Field :=
  [.modelsDir, .logDir, .allowedModelHosts, .allowedModelExtensions]

def layerOf (homes : Path.Homes) (given : OrderedMap Field Given) : Layer := fun f =>
  match (OrderedMap.get? given f).map fun g => readValue homes g f.kind with
  | some (.ok v) => some v
  | _ => none

def refusal? (homes : Path.Homes) (given : OrderedMap Field Given) : Option Fault :=
  refusable.findSome? fun f =>
    match (OrderedMap.get? given f).map fun g => readValue homes g f.kind with
    | some (.error e) => some e
    | _ => none

/-- The names of fields, in alphabetical order, as messages show them. -/
def shownNames (fields : List Field) : String :=
  (Json.ofStrings ((fields.map Field.name).mergeSort (· ≤ ·))).shown

def apply {σ : Type} (homes : Path.Homes) (source : String) (given : OrderedMap Field Given)
    (s : Settings) : Act σ (Except Fault Settings) :=
  match refusal? homes given with
  | some f => return .error f
  | none =>
    if given.isEmpty then return .ok s
    else do
      Act.log .debug logger
        s!"Applying {source} settings overrides: {shownNames (OrderedMap.keys given)}"
      return .ok ((layerOf homes given).over s)

def Given.isNull : Given → Bool
  | .json v => v.isNull
  | .path _ => false

/-- What some entries give for fields. A null gives nothing, and a key that names no field is
recorded. -/
def recognize {σ : Type} (source : String) (entries : List (String × Given)) :
    Act σ (OrderedMap Field Given) := do
  let unknown := entries.filter fun e => (Field.ofName? e.1).isNone
  Act.write (unknown.map fun e =>
    ⟨.warning, logger, s!"Ignoring unknown {source} setting {Text.quoted e.1}"⟩)
  return entries.filterMap fun e =>
    if e.2.isNull then none else (Field.ofName? e.1).map fun f => (f, e.2)

def applyEntries {σ : Type} (homes : Path.Homes) (source : String)
    (entries : List (String × Given)) (s : Settings) : Act σ (Except Fault Settings) := do
  apply homes source (← recognize source entries) s

end Settings

end ChatHost
