import ChatHost.Decimal.Binary
import ChatHost.Decimal.Digits

/-!
The double nearest to a fraction, a tie going to the even mantissa.
-/

namespace ChatHost.Decimal

/-- The whole number nearest to `n / d`, a tie going to the even one. -/
def roundDiv (n d : Nat) : Nat :=
  let q := n / d
  let r := 2 * (n % d)
  if r < d then q else if d < r then q + 1 else if q % 2 = 0 then q else q + 1

/-- The largest `e` with `2 ^ e ≤ n / d`, for positive `n` and `d`. -/
def floorLog2 (n d : Nat) : Int :=
  let e : Int := (n.log2 : Int) - d.log2
  if d * twoTo e.toNat ≤ n * twoTo (-e).toNat then e else e - 1

def infinityBits : Nat :=
  2047 * twoTo 52

/-- The bits of the double nearest to `n / d`, for a positive `d`; infinity beyond the largest. -/
def nearestBits (n d : Nat) : Nat :=
  if n = 0 then 0
  else
    let q : Int := max (floorLog2 n d - 52) leastExponent
    let m := roundDiv (n * twoTo (-q).toNat) (d * twoTo q.toNat)
    let bits := if m < twoTo 52 then m else (q + 1075).toNat * twoTo 52 + (m - twoTo 52)
    min bits infinityBits

def nearest (negative : Bool) (n d : Nat) : Float :=
  Float.ofBits (UInt64.ofNat ((if negative then twoTo 63 else 0) + nearestBits n d))

def nearestScaled (negative : Bool) (n : Nat) (e : Int) : Float :=
  let magnitude := (digits n).length + e
  if n = 0 || magnitude < -330 then nearest negative 0 1
  else if magnitude > 310 then nearest negative (twoTo 1024) 1
  else nearest negative (n * tenTo e.toNat) (tenTo (-e).toNat)

def infinity (negative : Bool) : Float :=
  nearest negative (twoTo 1024) 1

def notANumber : Float :=
  Float.ofBits 0x7FF8000000000000

/-- The double nearest to a whole number, if it lies in the range of doubles. -/
def ofInt? (n : Int) : Option Float :=
  if nearestBits n.natAbs 1 = infinityBits then none
  else some (nearest (n < 0) n.natAbs 1)

end ChatHost.Decimal
