import ChatHost.Host.Configure
import ChatHost.Json.Access
import ChatHost.Scripted.Host
import ChatHost.Scripted.Machine
import ChatHost.Settings.Environment

/-!
Scripts as JSON documents: what files, servers, tools and processes are to do in a run whose script
comes from outside.
-/

namespace ChatHost.Scripted.Document

def bytesOfHex : List Char → Text.Bytes
  | high :: low :: rest =>
    UInt8.ofNat ((Decimal.hexValue? high).getD 0 * 16 + (Decimal.hexValue? low).getD 0) ::
      bytesOfHex rest
  | _ => []

/-- The bytes that a value describes: those of a text, those of hexadecimal digits, or a number of
bytes that count up from zero again and again. -/
def bytes (v : Json) : Text.Bytes :=
  match v, v.textAt? "text", v.textAt? "hex" with
  | .str s, _, _ | _, some s, _ => Text.utf8 s
  | _, _, some digits => bytesOfHex digits.toList
  | _, _, _ => (List.range (v.naturalAt "cycle")).map fun i => UInt8.ofNat (i % 256)

/-- A text that a caller passes: a string as it is, anything else as bytes. -/
def input (v : Json) : Input :=
  match v with
  | .str s => .text s
  | v => .bytes (bytes v)

def tool (v : Json) : Tool where
  name := v.textAt "name"
  endpoint := v.textAt "endpoint" "http://t/sse"
  description := v.valueAt "description"
  inputSchema := v.membersAt "schema"
  reachable := v.flagAt "reachable" true

def tools (v : Json) : Tools :=
  OrderedMap.ofList (v.itemList.map fun t => ((tool t).name, tool t))

def endpoint (v : Json) : Endpoint :=
  match v.textAt? "connect_error", v.textAt? "list_error" with
  | some m, _ => .refuses m
  | none, some m => .failsToList m
  | none, none => .offers v.itemList

def handler (v : Json) : Handler :=
  match v.textAt? "raise", v.member? "result" with
  | some m, _ => .fails m
  | none, some answer => .answers answer
  | none, none => .echoes

def toolWorld (v : Json) : ToolWorld where
  endpoints := (v.membersAt "endpoints").filterMap fun (url, e) =>
    if e.isNull then none else some (url, endpoint e)
  handlers := (v.membersAt "handlers").map fun (name, h) => (name, handler h)

def urlScript (s : String) : UrlScript :=
  match s with
  | "allow" => .allow
  | "deny" => .deny
  | "raise" => .fails
  | s => .onlyHost (String.ofList (s.toList.drop "host:".length))

/-- An error of the operating system: its number and its wording. -/
def osError (v : Json) : OsError where
  number := (Json.obj [("number", v.itemList.headD .null)]).naturalAt "number"
  text := (v.itemList.getD 1 .null).word

def failureKind (name : String) : Http.FailureKind :=
  if Text.endsWith name.toList "Timeout".toList then .timeout
  else if name = "DecodingError" then .decoding
  else if name = "TooManyRedirects" then .redirects
  else .transport

/-- Headers with one more, unless there is one of its name. -/
def withHeader (name value : String) (headers : List (String × String)) :
    List (String × String) :=
  if headers.any fun h => Text.lower h.1 = name then headers else headers ++ [(name, value)]

/-- A response with a status, headers and a body whose length is announced. -/
def whole (status : Nat) (headers : List (String × String)) (body : Text.Bytes) :
    Http.Response where
  status := status
  headers := if body.isEmpty then headers
    else withHeader "content-length" (toString body.length) headers
  body := { bytes := body }

def brokenBody (v : Json) (pieces : Json) : Http.Body where
  bytes := pieces.itemList.flatMap bytes
  cut := (v.textAt? "then_raise").map fun m => ⟨.transport, m⟩

def response (v : Json) : Http.Response :=
  let status := v.naturalAt "status" 200
  let headers := (v.membersAt "headers").map fun (name, value) => (name, value.word)
  match v.member? "json", v.member? "body", v.member? "chunks" with
  | some value, _, _ =>
    let r := whole status headers (Text.utf8 (value.render ⟨false, none⟩))
    { r with headers := withHeader "content-type" "application/json" r.headers }
  | none, some body, _ => whole status headers (bytes body)
  | none, none, some pieces =>
    { status := status, headers := headers, body := brokenBody v pieces }
  | none, none, none => { status := status, headers := headers }

def httpScript (v : Json) : HttpScript :=
  match v.textAt? "exc", v.member? "server" with
  | some kind, _ => .fails ⟨failureKind kind, v.textAt "message" "boom"⟩
  | none, some body => .serves (bytes body)
  | none, none => .answers (response v)

def queue (v : Json) (key : String) : List HttpScript :=
  (v.itemsAt key).map httpScript

def trouble (v : Json) : Completion.Trouble :=
  let message := v.textAt "message" "boom"
  match v.textAt "exc" with
  | "connection" => .connection message
  | "timeout" => .connection "Request timed out."
  | "status" => .status (v.naturalAt "status" 500)
  | "validation" => .invalidBody message
  | "api" => .other message
  | "value" => .notJson message
  | "runtime" => .fault (.outside .runtime message)
  | kind =>
    match failureKind kind with
    | .transport | .timeout => .connection message
    | .decoding | .redirects | .address => .other message

/-- What a scripted try for a completion comes to. The answer is a remote value, among whose choices
there is a first one only if they are a list or a text. -/
def completion (v : Json) : CompletionScript :=
  match v.member? "completion" with
  | none => .fails (trouble v)
  | some answer =>
    match answer.attribute? "choices" with
    | some (.obj members) =>
      let kind := (Json.obj members).kindWord
      .fails (.fault (.mistyped s!"'{kind}' object is not subscriptable"))
    | _ => .answers answer

/-- A tree of files below a place, from which relative paths start. -/
def files (place : List String) (v : Json) : FileTree :=
  let below (name : String) : List String := place ++ (Path.ofString name).parts
  let start := ({ start := place } : FileTree).withDirectories place
  let filled := (v.membersAt "files").foldl (fun t (name, content) =>
    t.withFile (below name) (bytes content)) start
  (v.wordsAt "dirs").foldl (fun t name => t.withDirectories (below name)) filled

/-- Settings with the values that a document gives, taken as they are. -/
def settings (base : Settings) (v : Json) : Settings := fun f =>
  match v.member? f.name with
  | none => base f
  | some given =>
    match f.kind, base f with
    | .path, _ => Path.ofString given.word
    | .names, _ => given.itemList
    | .text, _ | .whole, _ | .real, _ | .flag, _ => given

def serverConfig (v : Json) : ServerConfig :=
  let standard : ServerConfig := {}
  { host := (v.member? "host").getD standard.host
    port := (v.member? "port").getD standard.port
    timeout := (v.member? "timeout").getD standard.timeout }

def environment (v : Json) : Environment :=
  (v.membersAt "env").map fun (name, value) => (name, value.word)

def message (v : Json) : Message String :=
  let part (i : Nat) : String := (v.itemList.getD i .null).word
  ⟨(Role.ofName? (part 0)).getD .user, part 1⟩

def options (v : Json) : Options where
  systemMessage := (v.textAt? "system_message").map .ofString
  toolEndpoints := (v.valueAt? "tool_endpoints").map fun urls => urls.words.map .ofString
  temperature := v.numberAt? "temperature"
  topP := v.numberAt? "top_p"

def optionsInput (v : Json) : OptionsInput :=
  match v, v.member? "object" with
  | _, some o => .given (options o)
  | .str s, none => .text s
  | v, none => .bytes (bytes v)

/-- The day of a date whose year, month and day are written in digits. -/
def date (s : String) : Date :=
  let number (start count : Nat) : Nat := Decimal.ofAscii ((s.toList.drop start).take count)
  ⟨number 0 4, number 5 2, number 8 2⟩

end ChatHost.Scripted.Document
