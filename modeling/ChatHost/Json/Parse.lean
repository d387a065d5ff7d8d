import ChatHost.Json.Reader

/-!
JSON documents from text and from bytes, with errors that say where they are.
-/

namespace ChatHost.Json

/-- A place in a text: letters before it, line and column counted from one. -/
structure Place where
  offset : Nat
  line : Nat
  column : Nat
  deriving DecidableEq, Repr

def Place.after (before : List Text.Letter) : Place where
  offset := before.length
  line := before.count (.char '\n') + 1
  column := (before.reverse.takeWhile (· ≠ .char '\n')).length + 1

/-- Why a document could not be read. -/
inductive ParseError where
  | malformed (what : Fault) (place : Place)
  | tooManyDigits (count : Nat)
  | undecodable (fault : Text.DecodeFault)
  deriving DecidableEq, Repr

def ParseError.message : ParseError → String
  | .malformed what p =>
    s!"{what.text}: line {p.line} column {p.column} (char {p.offset})"
  | .tooManyDigits count => Decimal.tooManyDigits count
  | .undecodable fault => fault.message

def locate (cs : List Text.Letter) : Refusal → ParseError
  | .fault what left => .malformed what (Place.after (cs.take (cs.length - left)))
  | .tooManyDigits count => .tooManyDigits count

variable {τ : Type} [Text.Script τ] [BEq τ]

/-- Reads the letters of a document, however deep its values nest. -/
def parseLetters (cs : List Text.Letter) : Except ParseError (Json τ) :=
  match document cs with
  | .ok v => .ok v
  | .error e => .error (locate cs e)

def parseChars (cs : List Char) : Except ParseError Json :=
  parseLetters (Text.ofChars cs)

def parse (s : String) : Except ParseError Json :=
  parseChars s.toList

/-- Reads a document from bytes in the encoding that they show. A byte order mark belongs to the
encoding, one more is a character of the text. -/
def parseBytes (bytes : Text.Bytes) : Except ParseError (Json τ) :=
  match Text.decodeDocument bytes with
  | .error fault => .error (.undecodable fault)
  | .ok (.char '\uFEFF' :: _) => .error (.malformed .value (Place.after []))
  | .ok cs => parseLetters cs

end ChatHost.Json
