import ChatHost.Decimal.Binary

/-!
The shortest decimal that reads back as a given double. Among the decimals of the least possible
number of digits the one nearest to the double is taken.
-/

namespace ChatHost.Decimal

structure Ratio where
  num : Nat
  den : Nat

def Ratio.scaled (n : Nat) (e : Int) : Ratio :=
  ⟨n * twoTo e.toNat, twoTo (-e).toNat⟩

def Ratio.decimal (n : Nat) (e : Int) : Ratio :=
  ⟨n * tenTo e.toNat, tenTo (-e).toNat⟩

def Ratio.le (a b : Ratio) : Bool :=
  a.num * b.den ≤ b.num * a.den

/-- Strict comparison of fractions with positive denominators. -/
def Ratio.lt (a b : Ratio) : Bool :=
  a.num * b.den < b.num * a.den

/-- The whole part of a fraction divided by `10 ^ e`. -/
def Ratio.floorAt (a : Ratio) (e : Int) : Nat :=
  a.num * tenTo (-e).toNat / (a.den * tenTo e.toNat)

/-- The number of decimal digits of a number, zero having none. -/
def digitCount (n : Nat) : Nat :=
  if n = 0 then 0 else digitCount (n / 10) + 1
termination_by n

/-- The largest `e` with `10 ^ e ≤ a`, for a positive fraction. -/
def Ratio.floorLog10 (a : Ratio) : Int :=
  let e : Int := (digitCount a.num : Int) - digitCount a.den
  if (Ratio.decimal 1 e).le a then e else e - 1

/-- The reals that round to `mantissa * 2 ^ exponent`; the ends belong to them when `closed`. -/
structure Interval where
  low : Ratio
  high : Ratio
  closed : Bool

/-- The reals that round to a positive double: half-way to its neighbours on both sides. -/
def Interval.around (mantissa : Nat) (exponent : Int) : Interval where
  low := Ratio.scaled
    (4 * mantissa - if mantissa = twoTo 52 && leastExponent < exponent then 1 else 2) (exponent - 2)
  high := Ratio.scaled (4 * mantissa + 2) (exponent - 2)
  closed := mantissa % 2 = 0

def Interval.holds (i : Interval) (a : Ratio) : Bool :=
  if i.closed then i.low.le a && a.le i.high else i.low.lt a && a.lt i.high

/-- The one of `n` and `n + 1` that is nearer to `a` on the grid of `10 ^ e`; a tie takes the even.
-/
def nearerNeighbour (a : Ratio) (e : Int) (n : Nat) : Nat :=
  let middle := Ratio.decimal (2 * n + 1) e
  let double : Ratio := ⟨2 * a.num, a.den⟩
  if double.lt middle then n
  else if middle.lt double then n + 1
  else if n % 2 = 0 then n else n + 1

def gridPoint? (i : Interval) (a : Ratio) (e : Int) : Option Nat :=
  let n := a.floorAt e
  match i.holds (.decimal n e), i.holds (.decimal (n + 1) e) with
  | true, true => some (nearerNeighbour a e n)
  | true, false => some n
  | false, true => some (n + 1)
  | false, false => none

/-- The first hit on grids that get finer, starting at `10 ^ e`. -/
def finerGrids (i : Interval) (a : Ratio) : Nat → Int → Nat × Int
  | 0, e => (a.floorAt e, e)
  | tries + 1, e =>
    match gridPoint? i a e with
    | some n => (n, e)
    | none => finerGrids i a tries (e - 1)

/-- The shortest decimal `n * 10 ^ e` of a positive double, as `(n, e)`. -/
def shortest (mantissa : Nat) (exponent : Int) : Nat × Int :=
  let a := Ratio.scaled mantissa exponent
  finerGrids (.around mantissa exponent) a 17 a.floorLog10

end ChatHost.Decimal
