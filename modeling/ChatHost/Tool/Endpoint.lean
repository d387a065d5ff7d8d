import ChatHost.Text.Blank
import ChatHost.Url.Basic

/-!
Endpoints of tools: absolute URLs of the web.
-/

namespace ChatHost.Tool

def isWebScheme (scheme : List Char) : Bool :=
  scheme == "http".toList || scheme == "https".toList

/-- The endpoint that a text names, blanks at its ends aside; none when it is no absolute URL of the
web. -/
def endpoint? (text : Text.Letters) : Option Text.Letters :=
  let candidate := text.strip
  match Url.split (candidate.list.map Text.Letter.toChar) with
  | .error _ => none
  | .ok parts =>
    if isWebScheme parts.scheme && !parts.netloc.isEmpty then some candidate else none

end ChatHost.Tool
