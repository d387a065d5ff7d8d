import ChatHost.OrderedMap
import ChatHost.Tool.Sse

/-!
A scripted endpoint over server-sent events, which keeps what it is asked.
-/

namespace ChatHost.Scripted

/-- What happened on the way to an endpoint. -/
inductive SseEvent where
  | connect (endpoint : Text.Letters) (c : Tool.Sse.Client)
  | enter (c : Tool.Sse.Client) (answerTimeout : Number)
  | introduce
  | call (name : String) (arguments : Option (List (String × Json)))
  | leave (reason : Option Fault)
  | close

/-- A scripted endpoint, and what happened on the way to it so far. -/
structure SseWorld where
  tools : List Json := []
  info : Json := .null
  connectFault : Option Fault := none
  introduceFault : Option Fault := none
  events : List SseEvent := []

namespace SseWorld

def answering {α : Type} (e : SseEvent) (f : SseWorld → α) : Act SseWorld α :=
  .ofWorld fun w => (f w, { w with events := w.events ++ [e] })

def orElse {α : Type} (fault : Option Fault) (a : α) : Except Fault α :=
  match fault with
  | some f => .error f
  | none => .ok a

/-- The way to the scripted endpoint. A call of a tool is answered with its name. -/
def link : Tool.Sse.Link SseWorld where
  connect endpoint c := answering (.connect endpoint c) fun w => orElse w.connectFault ()
  enter c time := answering (.enter c time) fun _ => ()
  introduce := answering .introduce fun w => orElse w.introduceFault w.info
  list := .read fun w => .ok w.tools
  call name arguments := answering (.call name arguments) fun _ => .ok (.str name)
  leave reason := answering (.leave reason) fun _ => ()
  close := answering .close fun _ => ()

end SseWorld

end ChatHost.Scripted
