import ChatHost.FileTree
import ChatHost.Json.Parse
import ChatHost.Json.Writer
import ChatHost.Settings.Environment

/-!
The file in which settings are kept, and how settings come together: those of the file over the
standard ones, those of the caller over these, and those of the environment over all.
-/

namespace ChatHost.Settings

def unifyLineEnds : List Char → List Char
  | '\r' :: '\n' :: rest => '\n' :: unifyLineEnds rest
  | '\r' :: rest => '\n' :: unifyLineEnds rest
  | c :: rest => c :: unifyLineEnds rest
  | [] => []

/-- The members of the object that the file holds. A file that holds none is recorded and counts as
empty; one that cannot be read is a fault. -/
def membersOf {σ : Type} (p : Path) (content : Text.Bytes) :
    Act σ (Except Fault (List (String × Json))) :=
  match Text.decodeUtf8 content with
  | .error f => return .error (.undecodable f)
  | .ok text =>
    match Json.parseChars (unifyLineEnds text) with
    | .error (.tooManyDigits count) => return .error (.tooManyDigits count)
    | .error e => do
      Act.log .warning logger s!"Settings file {p.text} is not valid JSON: {e.message}"
      return .ok []
    | .ok (.obj members) => return .ok members
    | .ok _ => do
      Act.log .warning logger s!"Settings file {p.text} must contain a JSON object"
      return .ok []

/-- The members of the object that the file at a path holds, none when there is no file. -/
def readFile (p : Path) : Act FileTree (Except Fault (List (String × Json))) := do
  match ← Act.read fun t => t.present p with
  | .error e => return .error (.os e)
  | .ok false => return .ok []
  | .ok true =>
    match ← Act.read fun t => t.read p with
    | .error e => return .error (.os e)
    | .ok content => membersOf p content

/-- What surrounds the loading of settings. -/
structure Context where
  homes : Path.Homes
  environment : Environment := []

/-- The settings that a file, a caller and the environment make together. -/
def load (c : Context) (p : Path) (overrides : List (String × Given)) :
    Act FileTree (Except Fault Settings) :=
  (readFile p).andThen fun members =>
  (applyEntries c.homes "file" (members.map fun m => (m.1, .json m.2))
    (standard c.homes.own)).andThen fun s =>
  (applyEntries c.homes "CLI" overrides s).andThen fun s =>
  applyEnvironment c.homes c.environment s

def fileText (s : Settings) : String :=
  s.toJson.sorted.render ⟨true, some 2⟩

/-- Puts the content of a file in its place, by way of a file beside it. -/
def replaceFile (beside p : Path) (content : Text.Bytes) (t : FileTree) :
    Except OsError Unit × FileTree :=
  match t.write beside content with
  | .error e => (.error e, t)
  | .ok t =>
    match t.move beside p with
    | .error e => (.error e, t)
    | .ok t => (.ok (), t)

/-- Writes settings to a file, by way of a file beside it that then takes its place. Nothing is done
when there is a number that cannot be written. -/
def save (p : Path) (s : Settings) : Act FileTree (Except Fault Path) :=
  if !s.toJson.isWritable then return .error (.invalid Decimal.tooLong)
  else do
    match ← Act.ofWorld fun t => t.ensureDirectories p.parent with
    | .error e => return .error (.os e)
    | .ok () =>
      match p.withSuffix? ".tmp" with
      | none => return .error (.invalid s!"PosixPath({Text.quoted p.text}) has an empty name")
      | some beside =>
        match ← Act.ofWorld (replaceFile beside p (Text.utf8 (fileText s))) with
        | .error e => return .error (.os e)
        | .ok () =>
          Act.log .debug logger s!"Settings saved to {p.text}"
          return .ok p

end ChatHost.Settings
