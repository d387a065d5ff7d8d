import ChatHost.Decimal.Limit
import ChatHost.Text.Case
import ChatHost.Text.Cut
import ChatHost.Text.Digit
import ChatHost.Text.Quoted
import ChatHost.Url.Address

/-!
Splitting URLs. Characters up to the space are dropped at the front, tabs and line ends everywhere;
the rest is split into scheme, network location, path, query and fragment, none of them decoded.
-/

namespace ChatHost.Url

/-- The parts of a URL, each without its delimiter. -/
structure Parts where
  scheme : List Char
  netloc : List Char
  path : List Char
  query : List Char
  fragment : List Char
  deriving DecidableEq, Repr

/-- Why a text is no URL. -/
inductive Error where
  | brackets
  | laterAddress
  | address (host : List Char)
  | bracketedIPv4
  | normalization (netloc : List Char)
  | portText (port : List Char)
  | portDigits (count : Nat)
  | portRange
  deriving DecidableEq, Repr

def Error.message : Error → String
  | .brackets => "Invalid IPv6 URL"
  | .laterAddress => "IPvFuture address is invalid"
  | .address host =>
    s!"{Text.quoted (String.ofList host)} does not appear to be an IPv4 or IPv6 address"
  | .bracketedIPv4 => "An IPv4 address cannot be in brackets"
  | .normalization netloc =>
    s!"netloc '{String.ofList netloc}' contains invalid characters under NFKC normalization"
  | .portText port =>
    s!"Port could not be cast to integer value as {Text.quoted (String.ofList port)}"
  | .portDigits count => Decimal.tooManyDigits count
  | .portRange => "Port out of range 0-65535"

def isSchemeChar (c : Char) : Bool :=
  c.isAlphanum || c == '+' || c == '-' || c == '.'

/-- The scheme in lower case and the text behind its colon; no scheme when the text before the first
colon is none. -/
def splitScheme (s : List Char) : List Char × List Char :=
  match Text.cutFirst ':' s with
  | (c :: cs, some rest) =>
    if c.isAlpha && cs.all isSchemeChar then (Text.lowerChars (c :: cs), rest) else ([], s)
  | _ => ([], s)

def endsNetloc (c : Char) : Bool :=
  c == '/' || c == '?' || c == '#'

/-- The network location behind two slashes, and the text after it. -/
def splitNetloc (s : List Char) : List Char × List Char :=
  match s with
  | '/' :: '/' :: rest =>
    (rest.takeWhile fun c => !endsNetloc c, rest.dropWhile fun c => !endsNetloc c)
  | _ => ([], s)

/-- The code points whose compatibility form holds one of the delimiters of a URL. -/
def delimiterLookalikes : List Nat :=
  [0x2047, 0x2048, 0x2049, 0x2100, 0x2101, 0x2105, 0x2106, 0x2A74, 0xFE13, 0xFE16, 0xFE55, 0xFE56,
    0xFE5F, 0xFE6B, 0xFF03, 0xFF0F, 0xFF1A, 0xFF1F, 0xFF20]

/-- The network location without its user information. -/
def hostPort (netloc : List Char) : List Char :=
  (Text.cutLast '@' netloc).2

def checkBracketedHost (host : List Char) : Except Error Unit :=
  if host.head? = some 'v' then
    if isLaterAddress host then .ok () else .error .laterAddress
  else if isIPv4 host then .error .bracketedIPv4
  else if isIPv6 host then .ok ()
  else .error (.address host)

/-- Checks a network location that has brackets: they hold the host, and only a port may follow. -/
def checkBrackets (netloc : List Char) : Except Error Unit :=
  match Text.cutFirst '[' (hostPort netloc) with
  | (before, some bracketed) =>
    if !before.isEmpty then .error .brackets
    else
      let (host, after) := Text.cutFirst ']' bracketed
      match after.getD [] with
      | [] => checkBracketedHost host
      | c :: _ => if c = ':' then checkBracketedHost host else .error .brackets
  | (plain, none) => checkBracketedHost (Text.cutFirst ':' plain).1

def checkNetloc (netloc : List Char) : Except Error Unit :=
  match netloc.contains '[', netloc.contains ']' with
  | true, true => checkBrackets netloc
  | false, false => .ok ()
  | _, _ => .error .brackets

/-- Refuses characters that stand for delimiters in compatibility form. -/
def checkLookalikes (netloc : List Char) : Except Error Unit :=
  if netloc.any fun c => delimiterLookalikes.contains c.toNat then .error (.normalization netloc)
  else .ok ()

/-- The characters that are taken out of a URL wherever they stand. -/
def isRemoved (c : Char) : Bool :=
  c == '\t' || c == '\n' || c == '\r'

/-- The text that is split: nothing up to the space in front, no tab and no line end. -/
def cleaned (s : List Char) : List Char :=
  (s.dropWhile fun c => c.toNat ≤ 0x20).filter fun c => !isRemoved c

def split (s : List Char) : Except Error Parts := do
  let (scheme, rest) := splitScheme (cleaned s)
  let (netloc, rest) := splitNetloc rest
  checkNetloc netloc
  let (rest, fragment) := Text.cutFirst '#' rest
  let (path, query) := Text.cutFirst '?' rest
  checkLookalikes netloc
  return ⟨scheme, netloc, path, query.getD [], fragment.getD []⟩

namespace Parts

/-- The name before the last at sign, up to its first colon. -/
def username (p : Parts) : Option (List Char) :=
  (Text.cutLast '@' p.netloc).1.map fun info => (Text.cutFirst ':' info).1

/-- The text behind the first colon before the last at sign. -/
def password (p : Parts) : Option (List Char) :=
  (Text.cutLast '@' p.netloc).1.bind fun info => (Text.cutFirst ':' info).2

def hostAndPort (p : Parts) : List Char × List Char :=
  match Text.cutFirst '[' (hostPort p.netloc) with
  | (_, some bracketed) =>
    let (host, after) := Text.cutFirst ']' bracketed
    (host, (Text.cutFirst ':' (after.getD [])).2.getD [])
  | (plain, none) =>
    let (host, port) := Text.cutFirst ':' plain
    (host, port.getD [])

/-- The host in lower case, a zone behind a percent sign as written; none when it is empty. -/
def hostname (p : Parts) : Option (List Char) :=
  match p.hostAndPort.1 with
  | [] => none
  | host =>
    let (name, zone) := Text.cutFirst '%' host
    some (Text.lowerChars name ++ (zone.map ('%' :: ·)).getD [])

/-- The port; a colon with nothing behind it gives none. -/
def port (p : Parts) : Except Error (Option Nat) :=
  let digits := p.hostAndPort.2
  if digits.isEmpty then .ok none
  else if !digits.all Text.isAsciiDigit then .error (.portText digits)
  else if Decimal.digitLimit < digits.length then .error (.portDigits digits.length)
  else if 65535 < Decimal.ofAscii digits then .error .portRange
  else .ok (some (Decimal.ofAscii digits))

end Parts

/-- The schemes whose URLs always show a network location. -/
def netlocSchemes : List String :=
  ["", "ftp", "http", "gopher", "nntp", "telnet", "imap", "wais", "file", "mms", "https", "shttp",
    "snews", "prospero", "rtsp", "rtsps", "rtspu", "rsync", "svn", "svn+ssh", "sftp", "nfs", "git",
    "git+ssh", "ws", "wss"]

def Parts.unsplit (p : Parts) : List Char :=
  let body :=
    if !p.netloc.isEmpty || ['/', '/'].isPrefixOf p.path ||
        (!p.scheme.isEmpty && netlocSchemes.contains (String.ofList p.scheme)) then
      let path := if !p.path.isEmpty && p.path.head? ≠ some '/' then '/' :: p.path else p.path
      ['/', '/'] ++ p.netloc ++ path
    else p.path
  (if p.scheme.isEmpty then [] else p.scheme ++ [':']) ++ body ++
    (if p.query.isEmpty then [] else '?' :: p.query) ++
    (if p.fragment.isEmpty then [] else '#' :: p.fragment)

end ChatHost.Url
