import ChatHost.Decimal.Digits
import ChatHost.Text.Letter
import ChatHost.Text.Printable

/-!
Quoted text, as messages show it. The quotes are single unless the text holds a single quote and no
double one; a backslash, the chosen quote and every character that is not printable are escaped.
-/

namespace ChatHost.Text

def singleQuote : Char :=
  '\x27'

def doubleQuote : Char :=
  '\x22'

def quoteFor (s : List Char) : Char :=
  if s.contains singleQuote && !s.contains doubleQuote then doubleQuote else singleQuote

/-- An escape with the code point in two, four or eight hexadecimal digits, as few as hold it. -/
def codeEscape (c : Char) : List Char :=
  if c.toNat < 0x100 then ['\\', 'x'] ++ Decimal.hex 2 c.toNat
  else if c.toNat < 0x10000 then ['\\', 'u'] ++ Decimal.hex 4 c.toNat
  else ['\\', 'U'] ++ Decimal.hex 8 c.toNat

def quotedChar (q c : Char) : List Char :=
  if c = q || c = '\\' then ['\\', c]
  else if c = '\n' then ['\\', 'n']
  else if c = '\r' then ['\\', 'r']
  else if c = '\t' then ['\\', 't']
  else if isPrintable c then [c]
  else codeEscape c

def quotedChars (s : List Char) : List Char :=
  let q := quoteFor s
  q :: s.flatMap (quotedChar q) ++ [q]

def quoted (s : String) : String :=
  String.ofList (quotedChars s.toList)

def quotedLetter (q : Char) : Letter → List Char
  | .char c => quotedChar q c
  | .half h => ['\\', 'u'] ++ Decimal.hex 4 (Letter.half h).code

/-- A text in which halves of surrogate pairs are escaped as well. -/
def Letters.quoted (t : Letters) : String :=
  let q := quoteFor (t.list.filterMap Letter.char?)
  String.ofList (q :: t.list.flatMap (quotedLetter q) ++ [q])

end ChatHost.Text
