import ChatHost.Decimal.Digits
import ChatHost.Text.Letter

/-!
Text as bytes: UTF-8, UTF-16 and UTF-32. Decoding goes character by character; a fault says which
bytes are wrong and why, and `decodeLossy` puts the replacement character in their place.
-/

namespace ChatHost.Text

abbrev Bytes := List UInt8

/-- The forms in which text is stored; the flag asks for the most significant byte first. -/
inductive Encoding where
  | utf8
  | utf16 (big : Bool)
  | utf32 (big : Bool)
  deriving DecidableEq, Repr

def Encoding.name : Encoding → String
  | .utf8 => "utf-8"
  | .utf16 true => "utf-16-be"
  | .utf16 false => "utf-16-le"
  | .utf32 true => "utf-32-be"
  | .utf32 false => "utf-32-le"

/-- Why bytes are no text. -/
inductive DecodeReason where
  | startByte
  | continuation
  | endOfData
  | truncated
  | outOfRange
  deriving DecidableEq, Repr

def DecodeReason.text : DecodeReason → String
  | .startByte => "invalid start byte"
  | .continuation => "invalid continuation byte"
  | .endOfData => "unexpected end of data"
  | .truncated => "truncated data"
  | .outOfRange => "code point not in range(0x110000)"

/-- A fault in encoded text: the first byte at fault, its place, and how many bytes belong to it. -/
structure DecodeFault where
  encoding : Encoding
  first : UInt8
  position : Nat
  count : Nat
  reason : DecodeReason
  deriving DecidableEq, Repr

def DecodeFault.message (f : DecodeFault) : String :=
  let place :=
    if f.count = 1 then
      s!"byte 0x{String.ofList (Decimal.hex 2 f.first.toNat)} in position {f.position}"
    else s!"bytes in position {f.position}-{f.position + f.count - 1}"
  s!"'{f.encoding.name}' codec can't decode {place}: {f.reason.text}"

/-- What stands at the head of some bytes: a character or a letter, or a fault, and the bytes it
takes after the first one. -/
inductive Head (α : Type := Char) where
  | char (c : α) (extra : Nat)
  | fault (extra : Nat) (reason : DecodeReason)

def Head.letter : Head → Head Letter
  | .char c extra => .char (.char c) extra
  | .fault extra reason => .fault extra reason

def utf8Tails (value taken low high : Nat) : Nat → Bytes → Head
  | 0, _ => .char (charOfCode value) taken
  | _ + 1, [] => .fault taken .endOfData
  | more + 1, b :: rest =>
    if low ≤ b.toNat && b.toNat ≤ high then
      utf8Tails (value * 64 + b.toNat % 64) (taken + 1) 0x80 0xBF more rest
    else .fault taken .continuation

/-- The character at the head of UTF-8, which starts with the byte `b`. -/
def utf8Head (b : UInt8) (rest : Bytes) : Head :=
  let a := b.toNat
  if a < 0x80 then .char (charOfCode a) 0
  else if a < 0xC2 then .fault 0 .startByte
  else if a < 0xE0 then utf8Tails (a % 0x20) 0 0x80 0xBF 1 rest
  else if a < 0xF0 then
    let low := if a = 0xE0 then 0xA0 else 0x80
    let high := if a = 0xED then 0x9F else 0xBF
    utf8Tails (a % 0x10) 0 low high 2 rest
  else if a < 0xF5 then
    let low := if a = 0xF0 then 0x90 else 0x80
    let high := if a = 0xF4 then 0x8F else 0xBF
    utf8Tails (a % 0x08) 0 low high 3 rest
  else .fault 0 .startByte

/-- The head of UTF-8 in which surrogate halves are let through. -/
def utf8HeadWithHalves (b : UInt8) (rest : Bytes) : Head Letter :=
  match b.toNat, rest with
  | 0xED, c :: d :: _ =>
    if 0xA0 ≤ c.toNat && c.toNat < 0xC0 && 0x80 ≤ d.toNat && d.toNat < 0xC0 then
      .char (.ofCode (0xD000 + c.toNat % 0x40 * 0x40 + d.toNat % 0x40)) 2
    else (utf8Head b rest).letter
  | _, _ => (utf8Head b rest).letter

def unit16 (big : Bool) (a b : UInt8) : Nat :=
  if big then a.toNat * 256 + b.toNat else b.toNat * 256 + a.toNat

/-- The letter at the head of UTF-16. A half that has no other half is let through. -/
def utf16Head (big : Bool) (a : UInt8) : Bytes → Head Letter
  | [] => .fault 0 .truncated
  | b :: rest =>
    let u := unit16 big a b
    if isHighHalf u then
      match rest with
      | c :: d :: _ =>
        let v := unit16 big c d
        if isLowHalf v then .char (joinHalves u v) 3 else .char (.ofCode u) 1
      | _ => .char (.ofCode u) 1
    else .char (.ofCode u) 1

def utf32Head (big : Bool) (a : UInt8) : Bytes → Head Letter
  | b :: c :: d :: _ =>
    let n :=
      if big then unit16 true a b * 0x10000 + unit16 true c d
      else unit16 false c d * 0x10000 + unit16 false a b
    if n < 0x110000 then .char (.ofCode n) 3 else .fault 3 .outOfRange
  | rest => .fault rest.length .truncated

/-- Decodes bytes that start at `position`, taking each character or letter with `head`. -/
def decodeWith {α : Type} (head : UInt8 → Bytes → Head α) (encoding : Encoding) (position : Nat) :
    Bytes → Except DecodeFault (List α)
  | [] => .ok []
  | b :: rest =>
    match head b rest with
    | .char c extra =>
      match decodeWith head encoding (position + 1 + extra) (rest.drop extra) with
      | .ok cs => .ok (c :: cs)
      | .error f => .error f
    | .fault extra reason => .error ⟨encoding, b, position, extra + 1, reason⟩
termination_by bytes => bytes.length
decreasing_by simp only [List.length_cons, List.length_drop]; omega

def decodeUtf8 (bytes : Bytes) : Except DecodeFault (List Char) :=
  decodeWith utf8Head .utf8 0 bytes

def decodeLossy : Bytes → List Char
  | [] => []
  | b :: rest =>
    match utf8Head b rest with
    | .char c extra => c :: decodeLossy (rest.drop extra)
    | .fault extra _ => replacement :: decodeLossy (rest.drop extra)
termination_by bytes => bytes.length
decreasing_by all_goals (simp only [List.length_cons, List.length_drop]; omega)

def encodeUtf8 (s : List Char) : Bytes :=
  s.flatMap String.utf8EncodeChar

def utf8 (s : String) : Bytes :=
  encodeUtf8 s.toList

/-- The encoding of a document, told from its mark or from where its first bytes are zero, and the
length of the mark. -/
def detect : Bytes → Encoding × Nat
  | 0x00 :: 0x00 :: 0xFE :: 0xFF :: _ => (.utf32 true, 4)
  | 0xFF :: 0xFE :: 0x00 :: 0x00 :: _ => (.utf32 false, 4)
  | 0xFE :: 0xFF :: _ => (.utf16 true, 2)
  | 0xFF :: 0xFE :: _ => (.utf16 false, 2)
  | 0xEF :: 0xBB :: 0xBF :: _ => (.utf8, 3)
  | a :: b :: c :: d :: _ =>
    if a = 0 then (if b = 0 then .utf32 true else .utf16 true, 0)
    else if b = 0 then (if c = 0 && d = 0 then .utf32 false else .utf16 false, 0)
    else (.utf8, 0)
  | [a, b] =>
    if a = 0 then (.utf16 true, 0) else if b = 0 then (.utf16 false, 0) else (.utf8, 0)
  | _ => (.utf8, 0)

/-- Decodes a document in the encoding that `detect` finds. Places in UTF-8 are counted from behind
the mark, in the other encodings from the first byte. -/
def decodeDocument (bytes : Bytes) : Except DecodeFault (List Letter) :=
  let (encoding, mark) := detect bytes
  let body := bytes.drop mark
  match encoding with
  | .utf8 => decodeWith utf8HeadWithHalves .utf8 0 body
  | .utf16 big => decodeWith (utf16Head big) encoding mark body
  | .utf32 big => decodeWith (utf32Head big) encoding mark body

end ChatHost.Text
