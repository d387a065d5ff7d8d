import Mathlib.Data.List.Induction
import ChatHost.Proofs.Tool.Discovery
import ChatHost.Proofs.Tool.Noted
import ChatHost.Scripted.Tools

set_option autoImplicit false

/-!
A search for tools from its first endpoint to its last: which sessions it opens and closes, which
offers it takes, and the tools that they make.
-/

namespace ChatHost

variable {σ α : Type}

namespace Tool

/-- Whether an endpoint is what a text names: the text without the blanks at its ends, when that is
an absolute URL of the web. -/
structure Names (text endpoint : Text.Letters) : Prop where
  stripped : endpoint = text.strip
  absolute : ∃ parts, Url.split (endpoint.list.map Text.Letter.toChar) = .ok parts ∧
    isWebScheme parts.scheme ∧ parts.netloc ≠ []

def listing (endpoint : Text.Letters) (offers : Option (List Json)) :
    List (Text.Letters × List Json) :=
  offers.toList.map (endpoint, ·)

/-- The listings that come back from some texts when each endpoint has one answer. -/
def answered (answer : Text.Letters → Option (List Json)) (texts : List Text.Letters) :
    List (Text.Letters × List Json) :=
  (texts.filterMap endpoint?).flatMap fun endpoint => listing endpoint (answer endpoint)

section Steady

variable {t : Transport σ} {worlds : σ → Prop} {answer : Text.Letters → Option (List Json)} {w : σ}

end Steady

end Tool

namespace Tool

end Tool

end ChatHost
