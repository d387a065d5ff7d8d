import ChatHost.Http.Basic

/-!
Clients: a request is sent, and redirects are followed. A client has rules of its own for the URLs
that it refuses, and for what it makes of the others.
-/

namespace ChatHost.Http

/-- The rules by which a client reads URLs. -/
structure Rules where
  /-- Why no request is sent to a URL, if none is. -/
  refusal? : String → Option String
  /-- A URL as it is sent. -/
  sent : String → String
  /-- The request to which a response leads, if it is a redirect that can be followed. -/
  next? : Request → Response → Option (Except Failure Request)
  /-- Nothing changes in a redirected request but where it goes, unless something is posted. -/
  keeps {r r' : Request} {response : Response} : r.method ≠ .post →
    next? r response = some (.ok r') → r'.method = r.method ∧ r'.offset = r.offset

/-- The way to the web in an outside world: one request, one response. -/
structure Client (σ : Type) where
  rules : Rules
  send : Request → Act σ (Except Failure Response)

def redirectLimit : Nat :=
  20

/-- The failure when redirects do not come to an end. -/
def tooManyRedirects : Failure :=
  ⟨.redirects, "Exceeded maximum allowed redirects."⟩

/-- Sends a request, and the requests to which redirects lead, at most the given number. -/
def Client.follow {σ : Type} (c : Client σ) : Nat → Request → Act σ (Except Failure Response)
  | 0, _ => return .error tooManyRedirects
  | left + 1, r => do
    match ← c.send r with
    | .error f => return .error f
    | .ok response =>
      match c.rules.next? r response, response.body.cut with
      | none, _ => return .ok response
      | some (.error f), _ => return .error f
      | some (.ok _), some f => return .error f
      | some (.ok r), none => c.follow left r

/-- Sends a request and follows redirects, unless the URL is refused. -/
def Client.request {σ : Type} (c : Client σ) (r : Request) : Act σ (Except Failure Response) :=
  match c.rules.refusal? r.url with
  | some message => return .error ⟨.address, message⟩
  | none => c.follow (redirectLimit + 1) { r with url := c.rules.sent r.url }

/-- The way to the web in a part of a larger world. -/
def Client.zoom {σ τ : Type} (get : τ → σ) (set : σ → τ → τ) (c : Client σ) : Client τ where
  rules := c.rules
  send r := (c.send r).zoom get set

end ChatHost.Http
