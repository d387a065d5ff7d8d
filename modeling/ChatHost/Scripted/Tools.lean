import ChatHost.Json.Writer
import ChatHost.Tool.Transport

/-!
Endpoints of tools that follow a script, and keep a trace of what they were asked.
-/

namespace ChatHost.Scripted

inductive Endpoint where
  | offers (tools : List Json)
  | refuses (message : String)
  | failsToList (message : String)

inductive Handler where
  | fails (message : String)
  | echoes
  | answers (answer : Json)

inductive ToolEvent where
  | connect (endpoint : Text.Letters)
  | call (endpoint : Text.Letters) (name : String) (arguments : Option (List (String × Json)))
  | close (endpoint : Text.Letters)

/-- Scripted endpoints and tools, and what happened at them so far. -/
structure ToolWorld where
  endpoints : OrderedMap Text.Letters Endpoint := []
  handlers : OrderedMap String Handler := []
  events : List ToolEvent := []

namespace ToolWorld

def note (w : ToolWorld) (e : ToolEvent) : ToolWorld :=
  { w with events := w.events ++ [e] }

def connectAnswer (w : ToolWorld) (endpoint : Text.Letters) : Except Fault Unit :=
  match OrderedMap.get? w.endpoints endpoint with
  | none => .error (.outside .connection s!"cannot reach {endpoint}")
  | some (.refuses m) => .error (.outside .runtime m)
  | some _ => .ok ()

def listAnswer (w : ToolWorld) (endpoint : Text.Letters) : Except Fault (List Json) :=
  match OrderedMap.get? w.endpoints endpoint with
  | some (.offers tools) => .ok tools
  | some (.failsToList m) => .error (.outside .runtime m)
  | _ => .ok []

/-- The answer of a tool that gives its arguments back as text. -/
def echo (arguments : Option (List (String × Json))) : Json :=
  .obj [("isError", .bool false),
    ("content", .arr [.obj [("type", .str "text"),
      ("text", .str (Json.ofOption .obj arguments).text)]])]

def callAnswer (w : ToolWorld) (name : String) (arguments : Option (List (String × Json))) :
    Except Fault Json :=
  match OrderedMap.get? w.handlers name with
  | none => .error (.outside .runtime s!"no handler for {name}")
  | some (.fails m) => .error (.outside .runtime m)
  | some .echoes => .ok (echo arguments)
  | some (.answers v) => .ok v

def transport : Tool.Transport ToolWorld where
  connect endpoint := Act.ofWorld fun w => (w.connectAnswer endpoint, w.note (.connect endpoint))
  list endpoint := Act.read fun w => w.listAnswer endpoint
  call endpoint name arguments := Act.ofWorld fun w =>
    (w.callAnswer name arguments, w.note (.call endpoint name arguments))
  close endpoint := Act.ofWorld fun w => (.ok (), w.note (.close endpoint))

end ToolWorld

end ChatHost.Scripted
