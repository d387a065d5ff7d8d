import ChatHost.Fault
import ChatHost.Text.Blank
import ChatHost.Text.Case
import ChatHost.Text.Digit

/-!
Numbers that people write, in settings and on the command line. Blanks may stand around a number,
its digits may be those of any script, and an underscore may stand between two digits.
-/

namespace ChatHost.Reading

/-- A character as it counts in a number: a digit of any script as one of ASCII, a blank outside
ASCII as a space, and any other character outside ASCII as one that no number holds. -/
def plainChar (c : Char) : Char :=
  if c.toNat < 0x80 then c
  else
    match Text.digitValue? c with
    | some d => Decimal.digitChar d
    | none => if Text.isBlank c then ' ' else '?'

def isPlainBlank (c : Char) : Bool :=
  c == ' ' || ('\t' ≤ c && c ≤ '\r')

/-- The characters that count, without the blanks around them. -/
def plain (s : List Char) : List Char :=
  ((((s.map plainChar).dropWhile isPlainBlank).reverse).dropWhile isPlainBlank).reverse

def sign (s : List Char) : Bool × List Char :=
  match s with
  | '-' :: rest => (true, rest)
  | '+' :: rest => (false, rest)
  | _ => (false, s)

/-- Whether every underscore stands between two digits; the first argument tells whether a digit
stands in front. -/
def underscoresFit (afterDigit : Bool) : List Char → Bool
  | [] => true
  | '_' :: rest =>
    afterDigit && (rest.head?.map Text.isAsciiDigit).getD false && underscoresFit false rest
  | c :: rest => underscoresFit (Text.isAsciiDigit c) rest

def withoutUnderscores (s : List Char) : List Char :=
  s.filter (· ≠ '_')

def isDigitOrUnderscore (c : Char) : Bool :=
  Text.isAsciiDigit c || c == '_'

def notWhole (s : String) : Fault :=
  .invalid (s!"invalid literal for int() with base 10: " ++
    String.ofList ((Text.quotedChars s.toList).take 200))

def whole (s : String) : Except Fault Int :=
  let (negative, body) := sign (plain s.toList)
  let run := body.takeWhile isDigitOrUnderscore
  let digits := withoutUnderscores run
  if digits.isEmpty || !underscoresFit false run then .error (notWhole s)
  else if Decimal.digitLimit < digits.length then .error (.tooManyDigits digits.length)
  else if run.length < body.length then .error (notWhole s)
  else
    let n : Int := Decimal.ofAscii digits
    .ok (if negative then -n else n)

def notReal (s : String) : Fault :=
  .invalid s!"could not convert string to float: {Text.quoted s}"

def fraction (s : List Char) : List Char × List Char :=
  match s with
  | '.' :: rest => (rest.takeWhile Text.isAsciiDigit, rest.dropWhile Text.isAsciiDigit)
  | _ => ([], s)

def exponent? (s : List Char) : Option Int :=
  match s with
  | [] => some 0
  | e :: rest =>
    let (negative, digits) := sign rest
    if (e == 'e' || e == 'E') && !digits.isEmpty && digits.all Text.isAsciiDigit then
      let n : Int := Decimal.ofAscii digits
      some (if negative then -n else n)
    else none

/-- A number in digits, perhaps with a point and an exponent. -/
def digitsReal? (negative : Bool) (s : List Char) : Option Float :=
  let front := s.takeWhile Text.isAsciiDigit
  let (behind, rest) := fraction (s.dropWhile Text.isAsciiDigit)
  if front.isEmpty && behind.isEmpty then none
  else
    (exponent? rest).map fun e =>
      Decimal.nearestScaled negative (Decimal.ofAscii (front ++ behind)) (e - behind.length)

def wordReal? (negative : Bool) (s : List Char) : Option Float :=
  let word := String.ofList (Text.lowerChars s)
  if word = "inf" || word = "infinity" then some (Decimal.infinity negative)
  else if word = "nan" then some Decimal.notANumber
  else none

def real (s : String) : Except Fault Float :=
  let body := plain s.toList
  if !underscoresFit false body then .error (notReal s)
  else
    let (negative, unsigned) := sign (withoutUnderscores body)
    match (wordReal? negative unsigned).or (digitsReal? negative unsigned) with
    | some x => .ok x
    | none => .error (notReal s)

end ChatHost.Reading
