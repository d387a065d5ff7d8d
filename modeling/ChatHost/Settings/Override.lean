import ChatHost.Settings.Environment

/-!
Settings that are given on a command line, each as a key, an equals sign and a value.
-/

namespace ChatHost.Settings

def falseWords : List String :=
  ["0", "false", "no", "off", "disabled"]

def readFlag (s : String) : Except Fault Bool :=
  if trueWords.contains (word s) then .ok true
  else if falseWords.contains (word s) then .ok false
  else .error (.invalid s!"Cannot coerce '{s}' to a boolean.")

def namesIn (s : String) : List String :=
  ((Text.pieces ',' s.toList).map Text.stripChars).filterMap fun name =>
    if name.isEmpty then none else some (String.ofList name)

def readOverride (homes : Path.Homes) (s : String) : Field.Kind → Except Fault Given
  | .text => .ok (.json (.str s))
  | .whole => (Reading.whole s).map fun n => .json (.ofInt n)
  | .real => (Reading.real s).map fun x => .json (.ofReal x)
  | .flag => (readFlag s).map fun b => .json (.bool b)
  | .path => (readPath homes (.json (.str s))).map .path
  | .names => .ok (.json (.ofStrings (namesIn s)))

def parseOverride (homes : Path.Homes) (entry : String) : Except Fault (Field × Given) :=
  match Text.cutFirst '=' entry.toList with
  | (_, none) => .error (.invalid s!"Override '{entry}' must use KEY=VALUE syntax.")
  | (key, some value) =>
    let key := String.ofList (Text.stripChars key)
    if key.isEmpty then .error (.invalid "Override is missing a field name.")
    else
      match Field.ofName? key with
      | none => .error (.invalid s!"Unknown setting '{key}'.")
      | some f =>
        (readOverride homes (String.ofList (Text.stripChars value)) f.kind).map fun g => (f, g)

/-- Reads overrides; of two for one field the later counts. -/
def parseOverrides (homes : Path.Homes) (entries : List String) :
    Except Fault (OrderedMap Field Given) :=
  (entries.mapM (parseOverride homes)).map OrderedMap.ofList

end ChatHost.Settings
