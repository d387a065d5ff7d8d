import ChatHost.Decimal.Power

/-!
Double-precision numbers as sign, whole mantissa and power of two.
-/

namespace ChatHost.Decimal

/-- What a double stands for: a finite value `±mantissa * 2 ^ exponent`, an infinity, or no number.
-/
inductive Binary where
  | nan
  | infinite (negative : Bool)
  | finite (negative : Bool) (mantissa : Nat) (exponent : Int)
  deriving DecidableEq, Repr

def leastExponent : Int :=
  -1074

/-- The reading of 64 bits as sign, eleven bits of exponent and fifty-two of fraction. -/
def Binary.ofBits (bits : Nat) : Binary :=
  let negative := bits / twoTo 63 == 1
  let biased : Nat := bits / twoTo 52 % twoTo 11
  let fraction : Nat := bits % twoTo 52
  if biased = 2047 then
    if fraction = 0 then .infinite negative else .nan
  else if biased = 0 then .finite negative fraction leastExponent
  else .finite negative (twoTo 52 + fraction) ((biased : Int) - 1075)

def Binary.ofFloat (x : Float) : Binary :=
  Binary.ofBits x.toBits.toNat

/-- A double that is neither infinite nor a NaN. -/
def isFinite (x : Float) : Bool :=
  match Binary.ofFloat x with
  | .finite .. => true
  | _ => false

end ChatHost.Decimal
