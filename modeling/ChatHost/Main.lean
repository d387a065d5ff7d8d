import ChatHost.Cli.Desk
import Std.Time.Format

/-!
The command line of the host. The files that a command line speaks of are read, the command line
runs on them, and what it has changed is written back.
-/

namespace ChatHost.Cli

def placeText (place : List String) : String :=
  (Path.mk .absolute place).text

/-- What is at a place of the disk. What is in a file is only read when it is asked for. -/
def probe (place : List String) (content : Bool) : IO (Option FileTree.Node) := do
  match ← (IO.FS.Handle.mk (placeText place) .read).toBaseIO with
  | .error _ => return none
  | .ok handle =>
    match ← (handle.read 1).toBaseIO with
    | .error _ => return some .directory
    | .ok _ =>
      let bytes ← if content then IO.FS.readBinFile (placeText place) else pure .empty
      return some (.file bytes.toList FileTree.newFileMode)

/-- Adds to a tree what the disk has at a place, and the directories above. -/
def lookAt (place : List String) (content : Bool) (t : FileTree) : IO FileTree := do
  let mut tree := t
  for count in List.range place.length do
    let here := place.take (count + 1)
    if (tree.node? here).isNone then
      if let some node ← probe here (content && here = place) then
        tree := tree.put here node
  return tree

def lookAll (paths : List Path) (content : Bool) (t : FileTree) : IO FileTree := do
  let mut tree := t
  for p in paths do
    let above := if p.root = .relative then t.start else []
    tree ← lookAt (above ++ p.parts) content tree
  return tree

/-- Brings what is at a place of the disk to the state in which it is in a tree. -/
def putBack (after : FileTree) (place : List String) : IO Unit := do
  match after.node? place with
  | none => IO.FS.removeFile (placeText place)
  | some .directory => IO.FS.createDirAll (placeText place)
  | some (.file content _) => IO.FS.writeBinFile (placeText place) ⟨content.toArray⟩

def writeBack (before after : FileTree) : IO Unit := do
  for (place, _) in after.nodes do
    if after.node? place ≠ before.node? place then putBack after place
  for (place, _) in before.nodes do
    if (after.node? place).isNone then putBack after place

def readEnvironment : IO Environment := do
  match ← (IO.FS.readBinFile "/proc/self/environ").toBaseIO with
  | .error _ => return []
  | .ok bytes =>
    let entries := Text.pieces (Char.ofNat 0) (Text.decodeLossy bytes.toList)
    return entries.filterMap fun entry =>
      match Text.cutFirst '=' entry with
      | (name, some value) => some (String.ofList name, String.ofList value)
      | (_, none) => none

/-- Runs a command line on the disk and gives its exit code. -/
def runOnDisk (words : List String) : IO Nat := do
  let env ← readEnvironment
  let homes := Path.Homes.of (.ofString ((OrderedMap.get? env "HOME").getD "/"))
  let now ← Std.Time.PlainDateTime.now
  let start := Path.ofString (← IO.currentDir).toString
  let today : Date := ⟨now.year.toInt.toNat, now.month.val.toNat, now.day.val.toNat⟩
  let sys := Desk.system homes env today
  let mut files ← lookAt start.parts true { start := start.parts }
  if let .ok a := parse words then
    if let .ok p := sys.settingsPath a then
      files ← lookAll [p] true files
    if let some s := Desk.settings? homes env files a then
      files ← lookAll (Desk.logPaths homes s) true files
      files ← lookAll (Desk.modelPaths s a) false files
  let desk : Desk := { files := files, clock := now.format "uuuu-MM-dd HH:mm:ss" }
  let out := (sys.run words).run { world := desk }
  let after := out.world.world
  writeBack files after.files
  IO.print after.output
  IO.eprint after.errors
  match out.result with
  | .ok code => return code
  | .error f =>
    IO.eprintln f.message
    return failure

end ChatHost.Cli

/-- Runs the command line with which the program was called. -/
def main (args : List String) : IO UInt32 := do
  return (← ChatHost.Cli.runOnDisk args).toUInt32
