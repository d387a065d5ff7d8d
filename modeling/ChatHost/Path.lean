import ChatHost.Text.Cut

/-!
File paths in normal form: no empty component and no `.`; `..` stays. Two slashes in front are a
root of their own, any other number of them is one.
-/

namespace ChatHost

inductive Path.Root where
  | relative
  | absolute
  | doubled
  deriving DecidableEq, Repr

structure Path where
  root : Path.Root
  parts : List String
  deriving DecidableEq, Repr

namespace Path

def Root.text : Root → List Char
  | .relative => []
  | .absolute => ['/']
  | .doubled => ['/', '/']

def Root.ofChars : List Char → Root
  | ['/', '/'] => .doubled
  | '/' :: '/' :: '/' :: _ => .absolute
  | '/' :: '/' :: _ => .doubled
  | '/' :: _ => .absolute
  | _ => .relative

def isComponent (s : List Char) : Bool :=
  !s.isEmpty && s ≠ ['.']

def ofChars (s : List Char) : Path :=
  ⟨.ofChars s, ((Text.pieces '/' s).filter isComponent).map String.ofList⟩

def ofString (s : String) : Path :=
  ofChars s.toList

/-- The text of a path; the empty relative path is a dot. -/
def toChars (p : Path) : List Char :=
  match p.root, p.parts with
  | .relative, [] => ['.']
  | root, parts => root.text ++ Text.joined ['/'] (parts.map String.toList)

def text (p : Path) : String :=
  String.ofList p.toChars

/-- The second path seen from the first; an absolute one stands for itself. -/
def join (p q : Path) : Path :=
  match q.root with
  | .relative => ⟨p.root, p.parts ++ q.parts⟩
  | _ => q

def child (p : Path) (name : String) : Path :=
  ⟨p.root, p.parts ++ [name]⟩

def parent (p : Path) : Path :=
  ⟨p.root, p.parts.dropLast⟩

def name? (p : Path) : Option String :=
  p.parts.getLast?

def withName (p : Path) (name : String) : Path :=
  p.parent.child name

/-- A name without its suffix: the text before a dot that is neither first nor last and behind which
there is no other dot. -/
def stem (name : List Char) : List Char :=
  match Text.cutLast '.' name with
  | (some before, after) => if before.isEmpty || after.isEmpty then name else before
  | (none, _) => name

/-- The path whose last component has the given suffix in place of its own, if it has a last
component. -/
def withSuffix? (p : Path) (suffix : String) : Option Path :=
  p.name?.map fun name => p.withName (String.ofList (stem name.toList) ++ suffix)

/-- The home directories that a path may speak of. -/
structure Homes where
  own : Path
  ofUser : String → Option Path

/-- The homes where only the superuser has one besides one's own. -/
def Homes.of (own : Path) : Homes where
  own := own
  ofUser user := if user = "root" then some ⟨.absolute, ["root"]⟩ else none

/-- The home directory that a first component stands for: `~` one's own, `~user` that of a user;
nothing when there is no such user. -/
def Homes.find? (h : Homes) (component : String) : Option Path :=
  match component.toList with
  | ['~'] => some h.own
  | '~' :: user => h.ofUser (String.ofList user)
  | _ => none

def isHomeMark (component : String) : Bool :=
  component.toList.head? = some '~'

/-- The path with a home directory in place of a first component that stands for one; nothing when
that home is unknown. -/
def expand? (h : Homes) (p : Path) : Option Path :=
  match p.root, p.parts with
  | .relative, first :: rest =>
    if isHomeMark first then (h.find? first).map fun home => ⟨home.root, home.parts ++ rest⟩
    else some p
  | _, _ => some p

end Path

end ChatHost
