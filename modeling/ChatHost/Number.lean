import ChatHost.Decimal.Layout

/-!
Numbers as data formats know them: whole numbers of any size, and doubles. The two kinds stay apart,
and compare by the exact values that they stand for.
-/

namespace ChatHost

inductive Number where
  | int (n : Int)
  | real (x : Float)

namespace Number

/-- An exact value: a fraction, an infinity, or nothing for a NaN. -/
inductive Value where
  | nan
  | infinite (negative : Bool)
  | finite (num : Int) (den : Nat)

def value : Number → Value
  | .int n => .finite n 1
  | .real x =>
    match Decimal.Binary.ofFloat x with
    | .nan => .nan
    | .infinite negative => .infinite negative
    | .finite negative m q =>
      let n : Int := (m * Decimal.twoTo q.toNat : Nat)
      .finite (if negative then -n else n) (Decimal.twoTo (-q).toNat)

/-- The order of two exact values; a NaN is in no order with anything. -/
def Value.compare? : Value → Value → Option Ordering
  | .nan, _ | _, .nan => none
  | .infinite a, .infinite b =>
    some (if a = b then .eq else if a then .lt else .gt)
  | .infinite a, .finite .. => some (if a then .lt else .gt)
  | .finite .., .infinite b => some (if b then .gt else .lt)
  | .finite a d, .finite b e => some (compare (a * e) (b * d))

def Value.less (a b : Value) : Bool :=
  a.compare? b == some .lt

def Value.doubled (times : Nat) : Value → Value
  | .finite n d => .finite (n * Decimal.twoTo times) d
  | v => v

/-- The double nearest to a value, an infinity beyond the range of doubles. -/
def Value.toReal : Value → Float
  | .nan => Decimal.notANumber
  | .infinite negative => Decimal.infinity negative
  | .finite n d => Decimal.nearest (n < 0) n.natAbs d

def compare? (a b : Number) : Option Ordering :=
  a.value.compare? b.value

def same (a b : Number) : Bool :=
  a.compare? b == some .eq

def less (a b : Number) : Bool :=
  a.value.less b.value

def atMost (a b : Number) : Bool :=
  a.less b || a.same b

def isWhole (a : Number) : Bool :=
  match a.value with
  | .finite n d => n % d == 0
  | _ => false

/-- Whether a number counts as true: all but zero. -/
def isNonzero (a : Number) : Bool :=
  !a.same (.int 0)

/-- The double nearest to a number, if it lies in the range of doubles. -/
def toReal? : Number → Option Float
  | .int n => Decimal.ofInt? n
  | .real x => some x

/-- The written form of a number, its doubles in the given layout. -/
def write (l : Decimal.Layout) : Number → List Char
  | .int n => Decimal.integer n
  | .real x => l.write x

end Number

end ChatHost
