import ChatHost.Decimal.Digits
import ChatHost.Decimal.Nearest
import ChatHost.Decimal.Shortest

/-!
The written form of a double. `Layout` holds what a format decides: which magnitudes are written
without an exponent, and the spellings of what is not a number.
-/

namespace ChatHost.Decimal

/-- The decisions of a format for doubles. -/
structure Layout where
  /-- The least power of ten of the first digit that is written without an exponent. -/
  leastPlain : Int
  /-- The first power of ten that is written with an exponent. -/
  firstScaled : Int
  /-- The least number of digits of an exponent. -/
  exponentDigits : Nat
  nan : String
  infinity : String

/-- Shortest digits, an exponent from `1e16` on and below `1e-4`, with the texts of JSON. -/
def jsonLayout : Layout :=
  ⟨-4, 16, 2, "NaN", "Infinity"⟩

def displayLayout : Layout :=
  { jsonLayout with nan := "nan", infinity := "inf" }

def dropTrailingZeros (ds : List Char) : List Char :=
  (ds.reverse.dropWhile (· == '0')).reverse

/-- Digits `d₁d₂…` with the first one worth `10 ^ power`, written without an exponent. -/
def plain (ds : List Char) (power : Int) : List Char :=
  if power < 0 then
    ['0', '.'] ++ List.replicate (-power - 1).toNat '0' ++ ds
  else
    let whole := power.toNat + 1
    let fraction := ds.drop whole
    ds.take whole ++ List.replicate (whole - ds.length) '0' ++
      '.' :: (if fraction.isEmpty then ['0'] else fraction)

/-- Digits with the first one worth `10 ^ power`, written with an exponent. -/
def scaled (width : Nat) (ds : List Char) (power : Int) : List Char :=
  let fraction := ds.drop 1
  ds.take 1 ++ (if fraction.isEmpty then [] else '.' :: fraction) ++
    ['e', if power < 0 then '-' else '+'] ++ padded width power.natAbs

/-- The digits of `n * 10 ^ e` in a layout, for a positive `n`. -/
def Layout.positive (l : Layout) (n : Nat) (e : Int) : List Char :=
  let all := digits n
  let power := e + all.length - 1
  let ds := dropTrailingZeros all
  if l.leastPlain ≤ power && power < l.firstScaled then plain ds power
  else scaled l.exponentDigits ds power

def Layout.write (l : Layout) (x : Float) : List Char :=
  match Binary.ofFloat x with
  | .nan => l.nan.toList
  | .infinite negative => (if negative then ['-'] else []) ++ l.infinity.toList
  | .finite negative m q =>
    (if negative then ['-'] else []) ++
      (if m = 0 then ['0', '.', '0'] else
        let (n, e) := shortest m q
        l.positive n e)

/-- A double with a fixed number of places, a half going to the even neighbour. -/
def fixed (places : Nat) (x : Float) : List Char :=
  match Binary.ofFloat x with
  | .nan => displayLayout.nan.toList
  | .infinite negative => (if negative then ['-'] else []) ++ displayLayout.infinity.toList
  | .finite negative m q =>
    let n := roundDiv (m * twoTo q.toNat * tenTo places) (twoTo (-q).toNat)
    let ds := padded (places + 1) n
    (if negative then ['-'] else []) ++ ds.take (ds.length - places) ++
      (if places = 0 then [] else '.' :: ds.drop (ds.length - places))

end ChatHost.Decimal
