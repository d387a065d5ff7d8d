import ChatHost.Decimal.Limit
import ChatHost.Json.Basic

/-!
JSON text. A style says whether the text is ASCII only, and whether it is spread over lines. The
text is of characters, so that a half of a surrogate pair is written as an escape in every style.
-/

namespace ChatHost.Json

/-- How JSON text is laid out. -/
structure Style where
  /-- Characters outside of ASCII, and the delete character, are written as escapes. -/
  ascii : Bool
  /-- The columns by which each level is indented; without it the text stays on one line. -/
  indent : Option Nat

def compact : Style :=
  ⟨true, none⟩

def unitEscape (u : Nat) : List Char :=
  ['\\', 'u'] ++ Decimal.hex 4 u

/-- The escape of a character, in two units where one does not hold it. -/
def codeEscape (c : Char) : List Char :=
  if c.toNat < 0x10000 then unitEscape c.toNat
  else
    unitEscape (0xD800 + (c.toNat - 0x10000) / 0x400) ++
      unitEscape (0xDC00 + (c.toNat - 0x10000) % 0x400)

def escapeChar (ascii : Bool) (c : Char) : List Char :=
  if c = '\x22' then ['\\', '\x22']
  else if c = '\\' then ['\\', '\\']
  else if c = '\n' then ['\\', 'n']
  else if c = '\r' then ['\\', 'r']
  else if c = '\t' then ['\\', 't']
  else if c = '\x0c' then ['\\', 'f']
  else if c = '\x08' then ['\\', 'b']
  else if c.toNat < 0x20 then codeEscape c
  else if ascii && 0x7F ≤ c.toNat then codeEscape c
  else [c]

def escapeLetter (ascii : Bool) : Text.Letter → List Char
  | .char c => escapeChar ascii c
  | .half h => unitEscape (Text.Letter.half h).code

variable {τ : Type} [Text.Script τ]

def writeString (ascii : Bool) (s : τ) : List Char :=
  '\x22' :: ((Text.Script.letters s).flatMap (escapeLetter ascii) ++ ['\x22'])

/-- The start of a line at some depth, where the style has lines. -/
def Style.newline (st : Style) (depth : Nat) : List Char :=
  match st.indent with
  | none => []
  | some n => '\n' :: List.replicate (n * depth) ' '

def Style.separator (st : Style) (depth : Nat) : List Char :=
  match st.indent with
  | none => [',', ' ']
  | some _ => ',' :: st.newline depth

mutual

def writeAt (st : Style) (depth : Nat) : Json τ → List Char
  | .null => ['n', 'u', 'l', 'l']
  | .bool true => ['t', 'r', 'u', 'e']
  | .bool false => ['f', 'a', 'l', 's', 'e']
  | .num n => n.write Decimal.jsonLayout
  | .str s => writeString st.ascii s
  | .arr [] => ['[', ']']
  | .arr (item :: items) =>
    '[' :: (st.newline (depth + 1) ++ writeAt st (depth + 1) item ++
      writeItems st (depth + 1) items ++ st.newline depth ++ [']'])
  | .obj [] => ['\x7b', '\x7d']
  | .obj ((k, v) :: ms) =>
    '\x7b' :: (st.newline (depth + 1) ++ writeString st.ascii k ++ [':', ' '] ++
      writeAt st (depth + 1) v ++ writeMembers st (depth + 1) ms ++ st.newline depth ++ ['\x7d'])

def writeItems (st : Style) (depth : Nat) : List (Json τ) → List Char
  | [] => []
  | item :: items => st.separator depth ++ writeAt st depth item ++ writeItems st depth items

def writeMembers (st : Style) (depth : Nat) : List (τ × Json τ) → List Char
  | [] => []
  | (k, v) :: ms =>
    st.separator depth ++ writeString st.ascii k ++ [':', ' '] ++ writeAt st depth v ++
      writeMembers st depth ms

end

def render (st : Style) (v : Json τ) : String :=
  String.ofList (writeAt st 0 v)

def text (v : Json τ) : String :=
  v.render compact

mutual

/-- Whether no whole number in a value has more digits than are written. -/
def isWritable : Json → Bool
  | .num (.int n) => n.natAbs < Nat.pow 10 Decimal.digitLimit
  | .arr items => areWritable items
  | .obj ms => membersWritable ms
  | _ => true

/-- Whether no whole number in some values has more digits than are written. -/
def areWritable : List Json → Bool
  | [] => true
  | v :: vs => isWritable v && areWritable vs

/-- Whether no whole number in some members has more digits than are written. -/
def membersWritable : List (String × Json) → Bool
  | [] => true
  | (_, v) :: ms => isWritable v && membersWritable ms

end

def byKey (ms : List (String × Json)) : List (String × Json) :=
  ms.mergeSort fun a b => a.1 ≤ b.1

mutual

/-- The value with the members of every object in the order of their keys. -/
def sorted : Json → Json
  | .arr items => .arr (sortedItems items)
  | .obj ms => .obj (byKey (sortedMembers ms))
  | v => v

def sortedItems : List Json → List Json
  | [] => []
  | item :: items => sorted item :: sortedItems items

def sortedMembers : List (String × Json) → List (String × Json)
  | [] => []
  | (k, v) :: ms => (k, sorted v) :: sortedMembers ms

end

end ChatHost.Json
