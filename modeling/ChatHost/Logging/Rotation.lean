import ChatHost.FileTree
import ChatHost.Logging.Basic

/-!
Writing to a log file, and putting it aside when it would grow to its limit.
-/

namespace ChatHost.LogFile

/-- The path of an older file; the newest of them has the number one. -/
def backup (f : LogFile) (number : Nat) : Path :=
  match f.path.name? with
  | some name => f.path.withName s!"{name}.{number}"
  | none => f.path

/-- Whether a line may not be added to the file as it is. The size of the file counts in bytes, that
of the line in characters. Only a file in the proper sense is ever put aside. -/
def isFull (f : LogFile) (line : String) (t : FileTree) : Bool :=
  match t.stat f.path with
  | .ok (.file content _) =>
    0 < f.limit && f.limit ≤ (content.length + line.length + 1 : Nat)
  | _ => false

/-- The tree after a change, or as it was when the change fails. -/
def attempt (change : FileTree → Except OsError FileTree) (t : FileTree) : FileTree :=
  match change t with
  | .ok t => t
  | .error _ => t

/-- Gives older files the next higher number, from the given one downwards. -/
def shift (f : LogFile) : Nat → FileTree → FileTree
  | 0, t => t
  | n + 1, t => f.shift n (attempt (fun t => t.move (f.backup (n + 1)) (f.backup (n + 2))) t)

/-- Puts the file aside, if older files are kept at all. -/
def rotate (f : LogFile) (t : FileTree) : FileTree :=
  if 0 < f.backups then
    let shifted := f.shift (f.backups - 1).toNat t
    attempt (fun t => t.move f.path (f.backup 1)) shifted
  else t

def write (f : LogFile) (line : String) (t : FileTree) : FileTree :=
  let ready := if f.isFull line t then f.rotate t else t
  attempt (fun t => t.append f.path (Text.utf8 (line ++ "\n"))) ready

end ChatHost.LogFile
