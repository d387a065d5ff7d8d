import ChatHost.Http.Location

/-!
A scripted web: for each method a queue of responses, the last of which is given again and again.
-/

namespace ChatHost.Scripted

inductive HttpScript where
  | fails (f : Http.Failure)
  /-- A server that has the given bytes, and gives those from an offset on when asked to. -/
  | serves (bytes : Text.Bytes)
  | answers (r : Http.Response)

def announced (status : Nat) (bytes : Text.Bytes) : Http.Response where
  status := status
  headers := if bytes.isEmpty then [] else [("content-length", toString bytes.length)]
  body := { bytes := bytes }

def HttpScript.respond (s : HttpScript) (r : Http.Request) : Except Http.Failure Http.Response :=
  match s with
  | .fails f => .error f
  | .answers response => .ok response
  | .serves bytes =>
    match r.offset with
    | none => .ok (announced 200 bytes)
    | some offset =>
      if bytes.length ≤ offset then .ok { status := 416 }
      else .ok (announced 206 (bytes.drop offset))

/-- A scripted web, and the requests that have been sent so far. -/
structure Web where
  head : List HttpScript := []
  get : List HttpScript := []
  post : List HttpScript := []
  sent : List Http.Request := []

namespace Web

/-- The queue without its first element, unless this is the last. -/
def advance (queue : List HttpScript) : List HttpScript :=
  match queue with
  | _ :: next :: rest => next :: rest
  | queue => queue

def queue (w : Web) : Http.Method → List HttpScript
  | .head => w.head
  | .get => w.get
  | .post => w.post

def consume (w : Web) : Http.Method → Web
  | .head => { w with head := advance w.head }
  | .get => { w with get := advance w.get }
  | .post => { w with post := advance w.post }

def respond (w : Web) (r : Http.Request) : Except Http.Failure Http.Response × Web :=
  let result := match (w.queue r.method).head? with
    | some script => script.respond r
    | none => .error ⟨.transport, "nothing is scripted"⟩
  (result, { w.consume r.method with sent := w.sent ++ [r] })

def client : Http.Client Web where
  rules := .standard
  send r := .ofWorld fun w => w.respond r

end Web

end ChatHost.Scripted
