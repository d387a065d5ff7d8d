import ChatHost.Text.Blank
import ChatHost.Url.Basic
import ChatHost.Url.Percent

/-!
The policy for model URLs: `https` only, no user information, a host under one of the allowed ones,
no way out of the cache directory, and an allowed extension. The reason for a rejection is not for
the caller.
-/

namespace ChatHost.Model

/-- The hosts and file extensions that model URLs may have. -/
structure Policy where
  hosts : List String
  extensions : List String
  deriving DecidableEq, Repr

def Policy.standard : Policy :=
  ⟨["huggingface.co", "hf.co"], [".llamafile"]⟩

/-- Why a URL is not accepted. -/
inductive Rejection where
  | malformed (error : Url.Error)
  | scheme (scheme : List Char)
  | hostOrCredentials
  | host (host : List Char)
  | path
  | extension (fileName : List Char)
  | fileName
  deriving DecidableEq, Repr

def Rejection.message : Rejection → String
  | .malformed error => s!"Model URL rejected (syntax): {error.message}"
  | .scheme s => s!"Model URL rejected (scheme {Text.quoted (String.ofList s)})"
  | .hostOrCredentials => "Model URL rejected (host or credentials)"
  | .host h => s!"Model URL rejected (host {String.ofList h} not allowed)"
  | .path => "Model URL rejected (path traversal or empty path)"
  | .extension name => s!"Model URL rejected (extension of {Text.quoted (String.ofList name)})"
  | .fileName => "Model URL rejected (unsafe file name)"

def dropFinalDots (s : List Char) : List Char :=
  (s.reverse.dropWhile (· == '.')).reverse

/-- Whether a host, dots at its end aside, is an allowed host or ends with a dot and one. -/
def hostAllowed (hosts : List String) (host : List Char) : Bool :=
  let host := dropFinalDots (Text.lowerChars host)
  hosts.any fun allowed =>
    let allowed := Text.lowerChars allowed.toList
    host == allowed || Text.endsWith host ('.' :: allowed)

/-- The decoded segments of a path, empty ones left out. -/
def pathSegments (path : List Char) : List (List Char) :=
  ((Text.pieces '/' path).filter fun s => !s.isEmpty).map Url.percentDecode

def hasDoubleDot : List Char → Bool
  | '.' :: '.' :: _ => true
  | _ :: rest => hasDoubleDot rest
  | [] => false

/-- Whether decoded segments or the decoded path lead out of a directory. -/
def isTraversal (path : List Char) (segments : List (List Char)) : Bool :=
  segments.any (fun s => s = ['.', '.'] || s = ['.']) || hasDoubleDot (Url.percentDecode path)

/-- Whether a file name ends with an allowed extension, in whatever case. -/
def extensionAllowed (extensions : List String) (fileName : List Char) : Bool :=
  extensions.any fun e => Text.endsWith (Text.lowerChars fileName) (Text.lowerChars e.toList)

def isControl (c : Char) : Bool :=
  c.toNat < 0x20 || (0x7F ≤ c.toNat && c.toNat < 0xA0)

/-- A character that a cached file's name may not hold. -/
def isUnsafeInName (c : Char) : Bool :=
  c == '/' || c == '\\' || isControl c

/-- Checks the parts of a URL, whose host is given apart, and gives the name of its file. -/
def Policy.checkParts (policy : Policy) (parts : Url.Parts) : Except Rejection (List Char) :=
  if parts.scheme ≠ "https".toList then .error (.scheme parts.scheme)
  else
    match parts.hostname, parts.username, parts.password with
    | some host, none, none =>
      if !hostAllowed policy.hosts host then .error (.host host)
      else
        let segments := pathSegments parts.path
        match segments.getLast? with
        | none => .error .path
        | some fileName =>
          if isTraversal parts.path segments then .error .path
          else if !extensionAllowed policy.extensions fileName then .error (.extension fileName)
          else if fileName.any isUnsafeInName then .error .fileName
          else .ok fileName
    | _, _, _ => .error .hostOrCredentials

def Policy.checkUrl (policy : Policy) (url : List Char) : Except Rejection (List Char) :=
  match Url.split url with
  | .error e => .error (.malformed e)
  | .ok parts =>
    match parts.port with
    | .error e => .error (.malformed e)
    | .ok _ => policy.checkParts parts

end ChatHost.Model
