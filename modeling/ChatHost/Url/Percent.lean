import ChatHost.Text.Encoding

/-!
Percent-decoding. The bytes of a run of ASCII, with `%XX` read as one byte, are decoded as UTF-8;
what is no text gives replacement characters. A percent sign without two hexadecimal digits stays.
-/

namespace ChatHost.Url

def isAscii (c : Char) : Bool :=
  c.toNat < 0x80

def unescape : List Char → Text.Bytes
  | '%' :: a :: b :: rest =>
    match Decimal.hexValue? a, Decimal.hexValue? b with
    | some x, some y => UInt8.ofNat (x * 16 + y) :: unescape rest
    | _, _ => UInt8.ofNat '%'.toNat :: unescape (a :: b :: rest)
  | c :: rest => UInt8.ofNat c.toNat :: unescape rest
  | [] => []

/-- Percent-decodes a text, where `run` holds the ASCII run before it, last character first. -/
def decodeFrom (run : List Char) : List Char → List Char
  | [] => Text.decodeLossy (unescape run.reverse)
  | c :: rest =>
    if isAscii c then decodeFrom (c :: run) rest
    else Text.decodeLossy (unescape run.reverse) ++ c :: decodeFrom [] rest

def percentDecode (s : List Char) : List Char :=
  decodeFrom [] s

end ChatHost.Url
