import ChatHost.Decimal.Limit
import ChatHost.Json.Basic
import ChatHost.Text.Digit
import ChatHost.Text.Encoding

/-!
Reading JSON text. The reader takes a value from the front of a text, whose strings may hold halves
of surrogate pairs, as characters or as escapes; a fault is located by how much of the text is left
where it stands. `NaN` and the infinities are read as numbers. A whole number may have at most
`Decimal.digitLimit` digits.
-/

namespace ChatHost.Json

/-- What is wrong at a place of a text that is not JSON. -/
inductive Fault where
  | value
  | propertyName
  | colon
  | comma
  | extraData
  | unterminatedString
  | controlCharacter
  | escape
  | unicodeEscape
  | byteOrderMark
  deriving DecidableEq, Repr

def Fault.text : Fault → String
  | .value => "Expecting value"
  | .propertyName => "Expecting property name enclosed in double quotes"
  | .colon => "Expecting ':' delimiter"
  | .comma => "Expecting ',' delimiter"
  | .extraData => "Extra data"
  | .unterminatedString => "Unterminated string starting at"
  | .controlCharacter => "Invalid control character at"
  | .escape => "Invalid \\escape"
  | .unicodeEscape => "Invalid \\uXXXX escape"
  | .byteOrderMark => "Unexpected UTF-8 BOM (decode using utf-8-sig)"

/-- Why no value could be read, with the number of letters left where it shows. -/
inductive Refusal where
  | fault (what : Fault) (left : Nat)
  | tooManyDigits (count : Nat)
  deriving DecidableEq, Repr

/-- What a reader gives back: a result and the text behind it. -/
abbrev Read (α : Type) (β : Type := Text.Letter) := Except Refusal (α × List β)

def isSpace (c : Text.Letter) : Bool :=
  c == ' ' || c == '\t' || c == '\n' || c == '\r'

def skipSpace (cs : List Text.Letter) : List Text.Letter :=
  cs.dropWhile isSpace

def hexValue? (c : Text.Letter) : Option Nat :=
  c.char?.bind Decimal.hexValue?

/-- The number that four hexadecimal digits write. -/
def hex4? (a b c d : Text.Letter) : Option Nat := do
  let a ← hexValue? a
  let b ← hexValue? b
  let c ← hexValue? c
  let d ← hexValue? d
  return a * 0x1000 + b * 0x100 + c * 0x10 + d

def shortEscape? (c : Char) : Option Char :=
  if c = '\x22' then some '\x22'
  else if c = '\\' then some '\\'
  else if c = '/' then some '/'
  else if c = 'b' then some '\x08'
  else if c = 'f' then some '\x0c'
  else if c = 'n' then some '\n'
  else if c = 'r' then some '\r'
  else if c = 't' then some '\t'
  else none

/-- Puts a letter in front of the text of a string that has been read. -/
def consRead (c : Text.Letter) : Read (List Text.Letter) → Read (List Text.Letter)
  | .ok (s, rest) => .ok (c :: s, rest)
  | .error e => .error e

/-- Emits the half of a pair that waits for its other half, which did not come. -/
def flushHalf (pending : Option Nat) (r : Read (List Text.Letter)) : Read (List Text.Letter) :=
  match pending with
  | none => r
  | some high => consRead (.ofCode high) r

/-- Reads a string up to its closing quote. `opening` is what was left at the opening quote, and
`pending` the first half of a surrogate pair when the last escape was one. Only with an escape is it
joined to a character; without one it stays the half that it is. -/
def stringBody (opening : Nat) (pending : Option Nat) : List Text.Letter → Read (List Text.Letter)
  | [] => .error (.fault .unterminatedString opening)
  | .char '\\' :: .char 'u' :: a :: b :: c :: d :: tail =>
    match tail with
    | [] => .error (.fault .unicodeEscape 5)
    | _ :: _ =>
      match hex4? a b c d with
      | none => .error (.fault .unicodeEscape (tail.length + 5))
      | some u =>
        match pending with
        | some high =>
          if Text.isLowHalf u then
            consRead (Text.joinHalves high u) (stringBody opening none tail)
          else if Text.isHighHalf u then consRead (.ofCode high) (stringBody opening (some u) tail)
          else consRead (.ofCode high) (consRead (.ofCode u) (stringBody opening none tail))
        | none =>
          if Text.isHighHalf u then stringBody opening (some u) tail
          else consRead (.ofCode u) (stringBody opening none tail)
  | .char '\\' :: .char 'u' :: rest => .error (.fault .unicodeEscape (rest.length + 1))
  | [.char '\\'] => .error (.fault .unterminatedString opening)
  | .char '\\' :: c :: rest =>
    match c.char?.bind shortEscape? with
    | none => .error (.fault .escape (rest.length + 2))
    | some e => flushHalf pending (consRead e (stringBody opening none rest))
  | c :: rest =>
    if c = .char '\x22' then flushHalf pending (.ok ([], rest))
    else if c.code < 0x20 then .error (.fault .controlCharacter (rest.length + 1))
    else flushHalf pending (consRead c (stringBody opening none rest))

variable {τ : Type} [Text.Script τ] [BEq τ]

def string (cs : List Text.Letter) : Read τ :=
  match stringBody (cs.length + 1) none cs with
  | .ok (s, rest) => .ok (Text.Script.ofLetters s, rest)
  | .error e => .error e

/-- The whole part of a number: a zero, or digits of which the first is none. -/
def wholePart? (cs : List Char) : Option (List Char × List Char) :=
  match cs with
  | '0' :: rest => some (['0'], rest)
  | c :: _ =>
    if Text.isAsciiDigit c then
      some (cs.takeWhile Text.isAsciiDigit, cs.dropWhile Text.isAsciiDigit)
    else none
  | [] => none

def fractionPart (cs : List Char) : List Char × List Char :=
  match cs with
  | '.' :: rest =>
    if (rest.takeWhile Text.isAsciiDigit).isEmpty then ([], cs)
    else (rest.takeWhile Text.isAsciiDigit, rest.dropWhile Text.isAsciiDigit)
  | _ => ([], cs)

def exponentSign (cs : List Char) : Bool × List Char :=
  match cs with
  | '-' :: rest => (true, rest)
  | '+' :: rest => (false, rest)
  | _ => (false, cs)

def exponentPart (cs : List Char) : Option Int × List Char :=
  match cs with
  | e :: rest =>
    if e = 'e' || e = 'E' then
      let (negative, ds) := exponentSign rest
      if (ds.takeWhile Text.isAsciiDigit).isEmpty then (none, cs)
      else
        let n : Int := Decimal.ofAscii (ds.takeWhile Text.isAsciiDigit)
        (some (if negative then -n else n), ds.dropWhile Text.isAsciiDigit)
    else (none, cs)
  | [] => (none, cs)

/-- Reads the digits of a number behind its sign; `left` is what was left at its start. -/
def unsigned (negative : Bool) (left : Nat) (cs : List Char) : Read Number Char :=
  match wholePart? cs with
  | none => .error (.fault .value left)
  | some (whole, rest) =>
    let (fraction, rest) := fractionPart rest
    let (exponent, rest) := exponentPart rest
    if fraction.isEmpty && exponent.isNone then
      if Decimal.digitLimit < whole.length then .error (.tooManyDigits whole.length)
      else
        let n : Int := Decimal.ofAscii whole
        .ok (.int (if negative then -n else n), rest)
    else
      let n := Decimal.ofAscii (whole ++ fraction)
      let e := exponent.getD 0 - fraction.length
      .ok (.real (Decimal.nearestScaled negative n e), rest)

/-- Reads a value that is neither string, list nor object; `left` is what was left at its start. -/
def plainScalar (left : Nat) (cs : List Char) : Read (Json τ) Char :=
  match cs with
  | 'n' :: 'u' :: 'l' :: 'l' :: rest => .ok (.null, rest)
  | 't' :: 'r' :: 'u' :: 'e' :: rest => .ok (.bool true, rest)
  | 'f' :: 'a' :: 'l' :: 's' :: 'e' :: rest => .ok (.bool false, rest)
  | 'N' :: 'a' :: 'N' :: rest => .ok (ofReal Decimal.notANumber, rest)
  | 'I' :: 'n' :: 'f' :: 'i' :: 'n' :: 'i' :: 't' :: 'y' :: rest =>
    .ok (ofReal (Decimal.infinity false), rest)
  | '-' :: 'I' :: 'n' :: 'f' :: 'i' :: 'n' :: 'i' :: 't' :: 'y' :: rest =>
    .ok (ofReal (Decimal.infinity true), rest)
  | '-' :: rest => (unsigned true left rest).map fun (n, rest) => (.num n, rest)
  | _ => (unsigned false left cs).map fun (n, rest) => (.num n, rest)

/-- The characters in front of the first half of a pair, and what is left from there. -/
def splitChars : List Text.Letter → List Char × List Text.Letter
  | .char c :: cs =>
    match splitChars cs with
    | (front, rest) => (c :: front, rest)
  | cs => ([], cs)

/-- Reads a value in which no half of a pair can stand. -/
def scalar (cs : List Text.Letter) : Read (Json τ) :=
  let parts := splitChars cs
  (plainScalar cs.length parts.1).map fun (v, rest) => (v, Text.ofChars rest ++ parts.2)

mutual

/-- Reads a value from the front of a text. The first argument bounds the steps; the length of the
text is enough. -/
def value : Nat → List Text.Letter → Read (Json τ)
  | 0, cs => .error (.fault .value cs.length)
  | fuel + 1, cs =>
    match cs with
    | .char '\x22' :: rest => (string rest).map fun (s, rest) => (.str s, rest)
    | .char '[' :: rest =>
      match skipSpace rest with
      | .char ']' :: rest => .ok (.arr [], rest)
      | rest => (items fuel rest).map fun (xs, rest) => (.arr xs, rest)
    | .char '\x7b' :: rest =>
      match skipSpace rest with
      | .char '\x7d' :: rest => .ok (.obj [], rest)
      | rest => (members fuel rest).map fun (ms, rest) => (.obj (OrderedMap.ofList ms), rest)
    | _ => scalar cs

def items : Nat → List Text.Letter → Read (List (Json τ))
  | 0, cs => .error (.fault .value cs.length)
  | fuel + 1, cs =>
    match value fuel cs with
    | .error e => .error e
    | .ok (x, rest) =>
      match skipSpace rest with
      | .char ']' :: rest => .ok ([x], rest)
      | .char ',' :: rest => (items fuel (skipSpace rest)).map fun (xs, rest) => (x :: xs, rest)
      | rest => .error (.fault .comma rest.length)

def members : Nat → List Text.Letter → Read (List (τ × Json τ))
  | 0, cs => .error (.fault .propertyName cs.length)
  | fuel + 1, cs =>
    match cs with
    | .char '\x22' :: rest =>
      match string rest with
      | .error e => .error e
      | .ok (k, rest) =>
        match skipSpace rest with
        | .char ':' :: rest =>
          match value fuel (skipSpace rest) with
          | .error e => .error e
          | .ok (v, rest) =>
            match skipSpace rest with
            | .char '\x7d' :: rest => .ok ([(k, v)], rest)
            | .char ',' :: rest =>
              (members fuel (skipSpace rest)).map fun (ms, rest) => ((k, v) :: ms, rest)
            | rest => .error (.fault .comma rest.length)
        | rest => .error (.fault .colon rest.length)
    | _ => .error (.fault .propertyName cs.length)

end

def document (cs : List Text.Letter) : Except Refusal (Json τ) :=
  match cs with
  | .char '\uFEFF' :: _ => .error (.fault .byteOrderMark cs.length)
  | _ =>
    match value (2 * cs.length + 2) (skipSpace cs) with
    | .error e => .error e
    | .ok (v, rest) =>
      match skipSpace rest with
      | [] => .ok v
      | rest => .error (.fault .extraData rest.length)

end ChatHost.Json
