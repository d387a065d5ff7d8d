import ChatHost.Http.Client
import ChatHost.Json.Parse
import ChatHost.Provider.Completion
import ChatHost.Text.Cut

/-!
Completions over the web: one request to an inference server, and what its response comes to.
-/

namespace ChatHost.Completion

def servicesUrl (config : ServerConfig) : String :=
  s!"{config.baseUrl}/v1/"

def completionsUrl (config : ServerConfig) : String :=
  s!"{servicesUrl config}chat/completions"

def ofFailure (f : Http.Failure) : Trouble :=
  .connection (if f.kind = .timeout then "Request timed out." else "Connection error.")

def saysJson (r : Http.Response) : Bool :=
  let kind := ((r.header? "content-type").getD "*").toList.takeWhile (· ≠ ';')
  Text.endsWith kind "json".toList

/-- The value in a body. A body that does not say that it is JSON may as well be text. -/
def valueOf (r : Http.Response) (body : Text.Bytes) : Except Trouble Json :=
  match Json.parseBytes body with
  | .ok v => .ok v
  | .error e =>
    if saysJson r then .error (.notJson e.message)
    else .ok (.str (String.ofList (Text.decodeLossy body)))

def ofResponse (r : Http.Response) : Except Trouble Json :=
  match r.body.whole with
  | .error f => .error (ofFailure f)
  | .ok body => if r.isSuccess then valueOf r body else .error (.status r.status)

def notSendable : Trouble :=
  .notJson "Out of range float values are not JSON compliant"

def overHttp {σ : Type} (c : Http.Client σ) (config : ServerConfig)
    (value : Json Text.Letters) : Act σ (Except Trouble Json) := do
  let url := completionsUrl config
  match c.rules.refusal? url, value.isFinite with
  | some message, _ => return .error (.fault (.outside .address message))
  | none, false => return .error notSendable
  | none, true =>
    match ← c.request { method := .post, url := url, payload := some value } with
    | .error f => return .error (ofFailure f)
    | .ok response => return ofResponse response

end ChatHost.Completion
