/-!
Letters of text as other systems hold it: characters, and halves of surrogate pairs, which may stand
anywhere and in any number.
-/

namespace ChatHost.Text

def replacement : Char :=
  '\uFFFD'

/-- The character of a code point, surrogate halves giving the replacement character. -/
def charOfCode (n : Nat) : Char :=
  if h : n.isValidChar then Char.ofNatAux n h else replacement

def isHighHalf (u : Nat) : Bool :=
  0xD800 ≤ u && u < 0xDC00

def isLowHalf (u : Nat) : Bool :=
  0xDC00 ≤ u && u < 0xE000

def joinHalves (high low : Nat) : Char :=
  charOfCode (0x10000 + (high - 0xD800) * 0x400 + (low - 0xDC00))

/-- A character, or a half of a surrogate pair, counted from the first of them. -/
inductive Letter where
  | char (c : Char)
  | half (h : Fin 0x800)
  deriving DecidableEq, Repr

instance : Coe Char Letter :=
  ⟨.char⟩

namespace Letter

def code : Letter → Nat
  | .char c => c.toNat
  | .half h => 0xD800 + h

def ofCode (n : Nat) : Letter :=
  if h : 0xD800 ≤ n ∧ n < 0xE000 then .half ⟨n - 0xD800, by omega⟩ else .char (charOfCode n)

def char? : Letter → Option Char
  | .char c => some c
  | .half _ => none

/-- The character that stands for a letter where there are only characters. -/
def toChar : Letter → Char
  | .char c => c
  | .half _ => replacement

end Letter

abbrev ofChars (cs : List Char) : List Letter :=
  cs.map .char

/-- A text whose letters may be halves of surrogate pairs. -/
structure Letters where
  list : List Letter
  deriving DecidableEq, Repr

namespace Letters

def ofString (s : String) : Letters :=
  ⟨ofChars s.toList⟩

instance : Coe String Letters :=
  ⟨ofString⟩

instance : Append Letters :=
  ⟨fun a b => ⟨a.list ++ b.list⟩⟩

instance : Inhabited Letters :=
  ⟨⟨[]⟩⟩

instance : LawfulBEq Letters :=
  inferInstance

def isEmpty (t : Letters) : Bool :=
  t.list.isEmpty

/-- The text for places where there are only characters. -/
def text (t : Letters) : String :=
  String.ofList (t.list.map Letter.toChar)

instance : ToString Letters :=
  ⟨text⟩

end Letters

/-- A kind of text: its letters, and the text that letters make. -/
class Script (τ : Type) where
  letters : τ → List Letter
  ofLetters : List Letter → τ
  ofLetters_letters (s : τ) : ofLetters (letters s) = s

instance : Script Letters where
  letters := Letters.list
  ofLetters := Letters.mk
  ofLetters_letters _ := rfl

instance : Script String where
  letters s := ofChars s.toList
  ofLetters ls := String.ofList (ls.map Letter.toChar)
  ofLetters_letters s := by
    have hchars : (ofChars s.toList).map Letter.toChar = s.toList := by
      rw [List.map_map]
      exact List.map_id _
    rw [hchars, String.ofList_toList]

end ChatHost.Text
