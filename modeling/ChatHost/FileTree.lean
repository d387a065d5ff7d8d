import ChatHost.Fault
import ChatHost.Log
import ChatHost.OrderedMap
import ChatHost.Path
import ChatHost.Text.Encoding

/-!
A tree of files, and what the operations of an operating system do to it. Files and directories are
kept by the components of their place below the root; the root itself is always there.
-/

namespace ChatHost

inductive FileTree.Node where
  | file (content : Text.Bytes) (mode : Nat)
  | directory
  deriving DecidableEq

/-- A tree of files, the place at which relative paths start, and the places at which modes are not
ours to change, each with the number of the error that says so. -/
structure FileTree where
  nodes : OrderedMap (List String) FileTree.Node := []
  start : List String := []
  modeRefusal? : List String → Option Nat := fun _ => none

namespace FileTree

def newFileMode : Nat :=
  0o644

/-- The greatest length of a component, in bytes. -/
def longestName : Nat :=
  255

def errorText : Nat → String
  | 1 => "Operation not permitted"
  | 2 => "No such file or directory"
  | 17 => "File exists"
  | 20 => "Not a directory"
  | 21 => "Is a directory"
  | 30 => "Read-only file system"
  | 36 => "File name too long"
  | 39 => "Directory not empty"
  | _ => "Unknown error"

def failure (number : Nat) (p : Path) : OsError :=
  { number := number, text := errorText number, path := some p.text }

/-- The error with a number, for a move from one path to another. -/
def moveFailure (number : Nat) (source target : Path) : OsError :=
  { failure number source with target := some target.text }

def node? (t : FileTree) (place : List String) : Option Node :=
  if place.isEmpty then some .directory else OrderedMap.get? t.nodes place

/-- Goes down from a place; every place on the way has to be a directory. -/
def descend (t : FileTree) : List String → List String → Except Nat (List String)
  | place, [] => .ok place
  | place, name :: rest =>
    match t.node? place with
    | none => .error 2
    | some (.file ..) => .error 20
    | some .directory =>
      if longestName < (Text.utf8 name).length then .error 36
      else descend t (if name = ".." then place.dropLast else place ++ [name]) rest

/-- The place of a path, whether or not there is anything. -/
def locate (t : FileTree) (p : Path) : Except Nat (List String) :=
  t.descend (if p.root = .relative then t.start else []) p.parts

def stat (t : FileTree) (p : Path) : Except OsError Node :=
  match t.locate p with
  | .error number => .error (failure number p)
  | .ok place =>
    match t.node? place with
    | none => .error (failure 2 p)
    | some node => .ok node

/-- Whether there is anything at a path. Only an error that says that there is nothing means no. -/
def present (t : FileTree) (p : Path) : Except OsError Bool :=
  match t.stat p with
  | .ok _ => .ok true
  | .error e => if e.number = 2 ∨ e.number = 20 then .ok false else .error e

def isDirectory (t : FileTree) (p : Path) : Bool :=
  t.stat p matches .ok .directory

def read (t : FileTree) (p : Path) : Except OsError Text.Bytes :=
  match t.stat p with
  | .error e => .error e
  | .ok .directory => .error (failure 21 p)
  | .ok (.file content _) => .ok content

def put (t : FileTree) (place : List String) (node : Node) : FileTree :=
  { t with nodes := OrderedMap.put place node t.nodes }

/-- The tree with a file at a path whose content comes from the content that was there, nothing when
there was no file. -/
def edit (t : FileTree) (p : Path) (f : Text.Bytes → Text.Bytes) : Except OsError FileTree :=
  match t.locate p with
  | .error number => .error (failure number p)
  | .ok place =>
    match t.node? place with
    | some .directory => .error (failure 21 p)
    | some (.file content mode) => .ok (t.put place (.file (f content) mode))
    | none => .ok (t.put place (.file (f []) newFileMode))

def write (t : FileTree) (p : Path) (content : Text.Bytes) : Except OsError FileTree :=
  t.edit p fun _ => content

def append (t : FileTree) (p : Path) (content : Text.Bytes) : Except OsError FileTree :=
  t.edit p (· ++ content)

def changeMode (t : FileTree) (p : Path) (f : Nat → Nat) : Except OsError FileTree :=
  match t.locate p with
  | .error number => .error (failure number p)
  | .ok place =>
    match t.node? place, t.modeRefusal? place with
    | none, _ => .error (failure 2 p)
    | some _, some number => .error (failure number p)
    | some .directory, none => .ok t
    | some (.file content mode), none => .ok (t.put place (.file content (f mode)))

def makeDirectory (t : FileTree) (p : Path) : Except OsError FileTree :=
  match t.locate p with
  | .error number => .error (failure number p)
  | .ok place =>
    match t.node? place with
    | some _ => .error (failure 17 p)
    | none => .ok (t.put place .directory)

def ensureDirectory (t : FileTree) (p : Path) : Except OsError FileTree :=
  match t.makeDirectory p with
  | .ok t => .ok t
  | .error e => if t.isDirectory p then .ok t else .error e

/-- Makes a directory and those above it where they are missing. The last argument bounds how far
up to go. Directories that have been made stay, also after an error. -/
def ensureDirectoriesUp (t : FileTree) (p : Path) : Nat → Except OsError Unit × FileTree
  | 0 =>
    match t.ensureDirectory p with
    | .ok t => (.ok (), t)
    | .error e => (.error e, t)
  | up + 1 =>
    match t.ensureDirectory p with
    | .ok t => (.ok (), t)
    | .error e =>
      if e.number ≠ 2 ∨ p.parts.isEmpty then (.error e, t)
      else
        match t.ensureDirectoriesUp p.parent up with
        | (.error e, t) => (.error e, t)
        | (.ok (), t) =>
          match t.ensureDirectory p with
          | .ok t => (.ok (), t)
          | .error e => (.error e, t)

def ensureDirectories (t : FileTree) (p : Path) : Except OsError Unit × FileTree :=
  t.ensureDirectoriesUp p p.parts.length

def hasBelow (t : FileTree) (place : List String) : Bool :=
  t.nodes.any fun entry => place.isPrefixOf entry.1 && entry.1 ≠ place

def prune (t : FileTree) (place : List String) : FileTree :=
  { t with nodes := t.nodes.filter fun entry => !place.isPrefixOf entry.1 }

/-- The tree in which what was at one place, and below, is at another. -/
def moveAll (t : FileTree) (source target : List String) : FileTree :=
  let moved := (t.nodes.filter fun entry => source.isPrefixOf entry.1).map fun entry =>
    (target ++ entry.1.drop source.length, entry.2)
  { t with nodes := OrderedMap.update ((t.prune source).prune target).nodes moved }

/-- Moves what is at one path to another, in place of what is there. -/
def move (t : FileTree) (source target : Path) : Except OsError FileTree :=
  match t.locate source, t.locate target with
  | .error number, _ | _, .error number => .error (moveFailure number source target)
  | .ok here, .ok there =>
    match t.node? here, t.node? there with
    | none, _ => .error (moveFailure 2 source target)
    | some (.file ..), some .directory => .error (moveFailure 21 source target)
    | some .directory, some (.file ..) => .error (moveFailure 20 source target)
    | some _, some .directory =>
      if here = there then .ok t
      else if t.hasBelow there then .error (moveFailure 39 source target)
      else .ok (t.moveAll here there)
    | some _, _ => .ok (if here = there then t else t.moveAll here there)

/-- The size that a node is said to have; that of a directory says nothing about what is in it. -/
def Node.size : Node → Nat
  | .file content _ => content.length
  | .directory => 4096

def leaves (t : FileTree) : List (List String × Node) :=
  t.nodes.filter fun
    | (_, .file ..) => true
    | (place, .directory) => !t.hasBelow place

def withDirectories (t : FileTree) (place : List String) : FileTree :=
  (List.range place.length).foldl (fun t count =>
    let above := place.take (count + 1)
    if (t.node? above).isSome then t else t.put above .directory) t

def withFile (t : FileTree) (place : List String) (content : Text.Bytes) : FileTree :=
  (t.withDirectories place.dropLast).put place (.file content newFileMode)

/-- The leaves below a place, each with its place as seen from there. -/
def leavesBelow (t : FileTree) (place : List String) : List (List String × Node) :=
  t.leaves.filterMap fun (leaf, node) =>
    if place.isPrefixOf leaf && leaf ≠ place then some (leaf.drop place.length, node) else none

def namesBelow (t : FileTree) (place : List String) : List String :=
  ((t.leavesBelow place).map fun leaf => "/".intercalate leaf.1).mergeSort (· ≤ ·)

/-- The files below a place, in the order of their names, each with what is in it. -/
def filesBelow (t : FileTree) (place : List String) : List (String × Text.Bytes) :=
  let files := (t.leavesBelow place).filterMap fun
    | (leaf, .file content _) => some ("/".intercalate leaf, content)
    | (_, .directory) => none
  files.mergeSort (fun a b => a.1 ≤ b.1)

/-- Where a world keeps its tree of files. -/
structure Access (σ : Type) where
  get : σ → FileTree
  set : FileTree → σ → σ

namespace Access

variable {σ α : Type}

def look (a : Access σ) (f : FileTree → α) : Act σ α :=
  .read fun w => f (a.get w)

def update (a : Access σ) (f : FileTree → Except OsError FileTree) :
    Act σ (Except OsError Unit) :=
  .ofWorld fun w =>
    match f (a.get w) with
    | .ok t => (.ok (), a.set t w)
    | .error e => (.error e, w)

def ensureDirectories (a : Access σ) (p : Path) : Act σ (Except OsError Unit) :=
  .ofWorld fun w =>
    let (result, t) := (a.get w).ensureDirectories p
    (result, a.set t w)

def within (a : Access σ) (act : Act FileTree α) : Act σ α :=
  act.zoom a.get a.set

def zoom {τ : Type} (get : τ → σ) (set : σ → τ → τ) (a : Access σ) : Access τ where
  get w := a.get (get w)
  set t w := set (a.set t (get w)) w

end Access

end FileTree

end ChatHost
