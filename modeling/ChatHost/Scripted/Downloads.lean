import ChatHost.Provider.Download
import ChatHost.Scripted.Http

/-!
Downloads from a scripted web into a tree of files.
-/

namespace ChatHost.Scripted

/-- A scripted web and a tree of files, with the progress that has been told so far. -/
structure DownloadWorld where
  files : FileTree := {}
  web : Web := {}
  told : List (Nat × Option Nat) := []

namespace DownloadWorld

def access : FileTree.Access DownloadWorld where
  get := files
  set t w := { w with files := t }

def client : Http.Client DownloadWorld :=
  Web.client.zoom web fun s w => { w with web := s }

def downloader (chunkSize : Nat) : Downloader DownloadWorld where
  files := access
  client := client
  chunkSize := chunkSize
  progress written total := .modify fun w => { w with told := w.told ++ [(written, total)] }

end DownloadWorld

end ChatHost.Scripted
