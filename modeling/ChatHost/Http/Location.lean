import ChatHost.Http.Client
import ChatHost.Reading
import ChatHost.Text.Encoding
import ChatHost.Url.Basic

/-!
The rules of a client that is in wide use: the URLs that it refuses, URLs as it sends them, and the
places to which redirects lead it. Of host names only the letters are read: names of other scripts,
and addresses in the place of names, are taken as they are.
-/

namespace ChatHost.Http

/-- The characters that stand for themselves in every part of a URL. -/
def isPlain (c : Char) : Bool :=
  0x20 < c.toNat && c.toNat < 0x7F && !(['\x22', '<', '>'].contains c)

def escapedByte (b : UInt8) : List Char :=
  '%' :: (Decimal.hex 2 b.toNat).map Char.toUpper

/-- The text with escapes for the characters that may not stand for themselves. -/
def escaped (plain : Char → Bool) (s : List Char) : List Char :=
  s.flatMap fun c => if plain c then [c] else (Text.encodeUtf8 [c]).flatMap escapedByte

def defaultPort (scheme : List Char) : List Char :=
  if scheme = "http".toList then "80".toList
  else if scheme = "https".toList then "443".toList
  else []

/-- The network location as it is sent: in lower case, without the port of the scheme. -/
def sentNetloc (scheme netloc : List Char) : List Char :=
  let lowered := Text.lowerChars netloc
  let port := ':' :: defaultPort scheme
  if port ≠ [':'] && Text.endsWith lowered port then lowered.take (lowered.length - port.length)
  else lowered

def sentParts (p : Url.Parts) : Url.Parts where
  scheme := p.scheme
  netloc := sentNetloc p.scheme p.netloc
  path := escaped (fun c => isPlain c && !(['#', '?', '`', '\x7b', '\x7d'].contains c)) p.path
  query := escaped (fun c => isPlain c && c ≠ '#') p.query
  fragment := escaped (fun c => isPlain c && c ≠ '`') p.fragment

def sentUrl (url : String) : String :=
  match Url.split url.toList with
  | .ok p => String.ofList (sentParts p).unsplit
  | .error _ => url

/-- The first character of a URL that cannot be sent, with its position. -/
def unsendable? (url : String) : Option (Char × Nat) :=
  url.toList.zipIdx.find? fun (c, _) => c.toNat < 0x20 || c.toNat = 0x7F

def writtenNetloc (url : List Char) : List Char :=
  match Text.cutFirst ':' url with
  | (_, some ('/' :: '/' :: rest)) => rest.takeWhile fun c => !(['/', '?', '#'].contains c)
  | _ => []

def behindHost (netloc : List Char) : List Char :=
  let rest := (Text.cutFirst '@' netloc).2.getD netloc
  let plain := rest.dropWhile fun c => c ≠ ':' && c ≠ '@'
  match rest, Text.cutLast ']' rest with
  | '[' :: _, (some _, after) => after
  | _, _ => plain

def writtenPort (url : List Char) : List Char :=
  match behindHost (writtenNetloc url) with
  | ':' :: port => port
  | port => port

def isPort (port : List Char) : Bool :=
  port.isEmpty || (Reading.whole (String.ofList port)).isOk

def longestUrl : Nat :=
  65536

/-- Why a URL is not sent, if it is not. -/
def refusal? (url : String) : Option String :=
  if longestUrl < url.length then some "URL too long"
  else
    match unsendable? url with
    | some (c, position) =>
      let shown := Text.quoted (String.ofList [c])
      some s!"Invalid non-printable ASCII character in URL, {shown} at position {position}."
    | none =>
      let port := writtenPort url.toList
      if isPort port then none else some s!"Invalid port: {Text.quoted (String.ofList port)}"

/-- One more segment behind those of a path, the last of which stands first. -/
def pushSegment (segments : List (List Char)) (s : List Char) : List (List Char) :=
  if s = ['.', '.'] then segments.tail else if s = ['.'] then segments else s :: segments

/-- The segments without those that are empty, but for the first and the last. -/
def withoutEmptyInside (segments : List (List Char)) : List (List Char) :=
  match segments with
  | first :: rest =>
    match rest.getLast? with
    | some last => first :: (rest.dropLast.filter fun s => !s.isEmpty) ++ [last]
    | none => [first]
  | [] => []

/-- A path seen from another, with the dot segments resolved. -/
def joinPaths (base path : List Char) : List Char :=
  let parts := Text.pieces '/' path
  let segments :=
    if path.head? = some '/' then parts
    else (Text.pieces '/' base).dropLast ++ parts
  let segments := withoutEmptyInside segments
  let resolved := (segments.foldl pushSegment []).reverse
  let resolved :=
    if segments.getLast? = some ['.', '.'] ∨ segments.getLast? = some ['.'] then resolved ++ [[]]
    else resolved
  let joined := Text.joined ['/'] resolved
  if joined.isEmpty then ['/'] else joined

def resolveParts (base location : Url.Parts) : Url.Parts :=
  if !location.scheme.isEmpty && location.scheme ≠ base.scheme then
    if location.netloc.isEmpty then { location with netloc := base.netloc } else location
  else if !location.netloc.isEmpty then { location with scheme := base.scheme }
  else if location.path.isEmpty then
    { base with
      query := if location.query.isEmpty then base.query else location.query
      fragment := location.fragment }
  else
    { scheme := base.scheme
      netloc := base.netloc
      path := joinPaths base.path location.path
      query := location.query
      fragment := location.fragment }

/-- The URL to which a redirect from another URL leads. The fragment of that URL stays when the
location has none. -/
def redirected (url location : String) : String :=
  match Url.split url.toList, Url.split location.toList with
  | .ok base, .ok target =>
    let parts := resolveParts base target
    let parts := if parts.fragment.isEmpty then { parts with fragment := base.fragment } else parts
    sentUrl (String.ofList parts.unsplit)
  | _, _ => location

def redirectedMethod (status : Nat) (m : Method) : Method :=
  match m, status with
  | .post, 301 | .post, 302 | .post, 303 => .get
  | m, _ => m

def redirectedRequest (r : Request) (status : Nat) (location : String) : Request :=
  let method := redirectedMethod status r.method
  { method := method
    url := redirected r.url location
    offset := r.offset
    payload := if method = r.method then r.payload else none }

/-- The request to which a response leads, if it is a redirect. It fails for a location that cannot
be a URL. -/
def next? (r : Request) (response : Response) : Option (Except Failure Request) :=
  if [301, 302, 303, 307, 308].contains response.status then
    (response.header? "location").map fun location =>
      match refusal? location with
      | some message => .error ⟨.transport, s!"Invalid URL in location header: {message}."⟩
      | none => .ok (redirectedRequest r response.status location)
  else none

theorem redirectedMethod_of_ne {m : Method} (h : m ≠ .post) (status : Nat) :
    redirectedMethod status m = m := by
  cases m with
  | head | get => rfl
  | post => exact absurd rfl h

def Rules.standard : Rules where
  refusal? := Http.refusal?
  sent := sentUrl
  next? := Http.next?
  keeps := by
    intro r r' response hr h
    rw [Http.next?] at h
    split at h
    · obtain ⟨location, -, hlocation⟩ := Option.map_eq_some_iff.1 h
      split at hlocation
      · cases hlocation
      · obtain rfl := Except.ok.inj hlocation
        exact ⟨redirectedMethod_of_ne hr _, rfl⟩
    · cases h

end ChatHost.Http
