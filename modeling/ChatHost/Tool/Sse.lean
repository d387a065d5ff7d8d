import ChatHost.Fault
import ChatHost.Log
import ChatHost.Json.Display

/-!
Sessions with tool endpoints over server-sent events. A stream to the endpoint is opened, a session
is begun on it, and both are left in the opposite order.
-/

namespace ChatHost.Tool.Sse

/-- Who talks to an endpoint, and how long it waits. -/
structure Client where
  name : String := "blessnet-mcp-client"
  version : String := "1.0.0"
  timeout : Number := .real 30.0
  streamTimeout : Number := .real 300.0

/-- The time after which a session stops waiting for an answer: whole microseconds, a half going to
the even neighbour. -/
def Client.answerTimeout (c : Client) : Number :=
  match c.timeout.value with
  | .finite n d =>
    let micros := Decimal.roundDiv (n.natAbs * Decimal.tenTo 6) d
    .real (Decimal.nearest (n < 0) micros (Decimal.tenTo 6))
  | v => .real v.toReal

/-- The way to endpoints in an outside world. -/
structure Link (σ : Type) where
  /-- Opens a stream. -/
  connect : Text.Letters → Client → Act σ (Except Fault Unit)
  /-- Begins a session on the open stream, which waits for an answer as long as is given. -/
  enter : Client → Number → Act σ Unit
  /-- Introduces the client to the endpoint, which introduces itself. -/
  introduce : Act σ (Except Fault Json)
  /-- Asks for the tools. -/
  list : Act σ (Except Fault (List Json))
  /-- Calls a tool. -/
  call : String → Option (List (String × Json)) → Act σ (Except Fault Json)
  /-- Leaves the session, perhaps for a fault. -/
  leave : Option Fault → Act σ Unit
  /-- Closes the stream. -/
  close : Act σ Unit

def logger : String :=
  "tools.transport"

variable {σ α : Type}

/-- How an endpoint has introduced itself, as records show it. -/
def serverWord (info : Json) : String :=
  ((info.member? "serverInfo").getD .null).toText

def use (k : Link σ) (endpoint : Text.Letters) (body : Act σ (Except Fault α)) :
    Act σ (Except Fault α) :=
  k.introduce.andThen fun info => do
    Act.log .debug logger s!"Connected to MCP server {serverWord info} at {endpoint}"
    body

/-- Uses a session at an endpoint. The session is left whatever happens. -/
def withSession (k : Link σ) (c : Client) (endpoint : Text.Letters)
    (body : Act σ (Except Fault α)) : Act σ (Except Fault α) := do
  Act.log .debug logger s!"Opening MCP SSE session to {endpoint}"
  match ← k.connect endpoint c with
  | .error f => return .error f
  | .ok () =>
    k.enter c c.answerTimeout
    match ← use k endpoint body with
    | .error f =>
      k.leave (some f)
      return .error f
    | .ok a =>
      k.leave none
      k.close
      Act.log .debug logger s!"Closed MCP SSE session to {endpoint}"
      return .ok a

end ChatHost.Tool.Sse
