import ChatHost.Logging.Setup

/-!
A scripted world for logging: files, a console, and a clock that stands still.
-/

namespace ChatHost.Scripted

/-- Files, a console that keeps what is written to it, and how logging is set up. -/
structure LogWorld where
  files : FileTree := {}
  console : String := ""
  logging : Logging := {}
  clock : String := "2025-01-02 09:30:00"

def LogWorld.outlet : Logging.Outlet LogWorld where
  get := logging
  set l w := { w with logging := l }
  files := { get := files, set := fun t w => { w with files := t } }
  now := .read clock
  console line := .modify fun w => { w with console := w.console ++ line ++ "\n" }

end ChatHost.Scripted
