import ChatHost.Fault
import ChatHost.Log
import ChatHost.OrderedMap
import ChatHost.Text.Case

/-!
Requests over the web and the responses to them. The body of a response may break off.
-/

namespace ChatHost.Http

/-- The ways in which a request fails. -/
inductive FailureKind where
  /-- The other side cannot be reached, or the connection breaks. -/
  | transport
  /-- The other side takes too long. -/
  | timeout
  /-- The response cannot be understood. -/
  | decoding
  /-- One redirect leads to another without end. -/
  | redirects
  /-- A URL cannot be one. This is a fault of who gives it, and no failure of a request. -/
  | address
  deriving DecidableEq, Repr

structure Failure where
  kind : FailureKind
  message : String
  deriving DecidableEq, Repr

inductive Method where
  | head
  | get
  | post
  deriving DecidableEq, Repr

def Method.name : Method → String
  | .head => "HEAD"
  | .get => "GET"
  | .post => "POST"

/-- A request. It may ask for the bytes from an offset on, and it may carry a value. -/
structure Request where
  method : Method
  url : String
  offset : Option Nat := none
  payload : Option (Json Text.Letters) := none

/-- The value of the header with which a request asks for the bytes from an offset on. -/
def rangeHeader (offset : Nat) : String :=
  s!"bytes={offset}-"

/-- A body, and the failure with which it breaks off, if it does. -/
structure Body where
  bytes : Text.Bytes := []
  cut : Option Failure := none

structure Response where
  status : Nat := 200
  headers : List (String × String) := []
  body : Body := {}

/-- The value of a header, whose name may be written in any case. -/
def Response.header? (r : Response) (name : String) : Option String :=
  (r.headers.find? fun h => Text.lower h.1 = name).map Prod.snd

def Response.isSuccess (r : Response) : Bool :=
  200 ≤ r.status && r.status ≤ 299

def Response.isError (r : Response) : Bool :=
  400 ≤ r.status && r.status ≤ 599

/-- The bytes in pieces of a size, the last of which may be shorter; a size of zero counts as
one. -/
def chunks (size : Nat) : Text.Bytes → List Text.Bytes
  | [] => []
  | b :: rest => (b :: rest.take (size - 1)) :: chunks size (rest.drop (size - 1))
termination_by bytes => bytes.length

/-- The pieces of a body that arrive. When it breaks off, an incomplete piece does not. -/
def Body.pieces (size : Nat) (b : Body) : List Text.Bytes :=
  match b.cut with
  | none => chunks size b.bytes
  | some _ => (chunks size b.bytes).filter fun piece => max 1 size ≤ piece.length

/-- The whole of a body, unless it breaks off. -/
def Body.whole (b : Body) : Except Failure Text.Bytes :=
  match b.cut with
  | none => .ok b.bytes
  | some f => .error f

end ChatHost.Http
