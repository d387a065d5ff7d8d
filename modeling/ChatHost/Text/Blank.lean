import ChatHost.Text.Letter
import ChatHost.Text.Ranges

/-!
White space: the characters with the Unicode property `White_Space`, and the four separators
U+001C to U+001F. `strip` drops it at both ends of a text.
-/

namespace ChatHost.Text

/-- The ranges of white space, in increasing order. -/
def blankRanges : List (Nat × Nat) :=
  [(0x0009, 0x000D), (0x001C, 0x0020), (0x0085, 0x0085), (0x00A0, 0x00A0), (0x1680, 0x1680),
   (0x2000, 0x200A), (0x2028, 0x2029), (0x202F, 0x202F), (0x205F, 0x205F), (0x3000, 0x3000)]

def isBlank (c : Char) : Bool :=
  inRanges blankRanges c.toNat

/-- The text without the white space at its start. -/
def stripLeft (s : List Char) : List Char :=
  s.dropWhile isBlank

/-- The text without the white space at its end. -/
def stripRight (s : List Char) : List Char :=
  (s.reverse.dropWhile isBlank).reverse

/-- The text without the white space at either end. -/
def stripChars (s : List Char) : List Char :=
  stripRight (stripLeft s)

def Letter.isBlank (l : Letter) : Bool :=
  l.char?.any Text.isBlank

/-- The text without the white space at either end. -/
def Letters.strip (t : Letters) : Letters :=
  ⟨((t.list.dropWhile Letter.isBlank).reverse.dropWhile Letter.isBlank).reverse⟩

/-- The text without the white space at either end. -/
def strip (s : String) : String :=
  String.ofList (stripChars s.toList)

end ChatHost.Text
