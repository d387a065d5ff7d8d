import ChatHost.Decimal.Nearest
import Mathlib.Algebra.Order.Group.Nat
import Mathlib.Tactic.Ring

set_option autoImplicit false

/-!
The range of doubles: a whole number has a nearest double as long as it lies below the middle
between the largest double and the power of two behind it.
-/

namespace ChatHost.Decimal

/-- The least magnitude that is beyond all doubles: the middle between the largest of them, which is
`(2 ^ 53 - 1) * 2 ^ 971`, and `2 ^ 1024`. -/
def overflow : Nat :=
  (2 ^ 54 - 1) * 2 ^ 970

variable {a c d n : Nat}

theorem roundDiv_eq (a d : Nat) :
    roundDiv a d = if 2 * (a % d) < d then a / d else if d < 2 * (a % d) then a / d + 1
      else if a / d % 2 = 0 then a / d else a / d + 1 :=
  rfl

theorem roundDiv_le (hd : 0 < d) (h : a < c * d) : roundDiv a d ≤ c := by
  have hq : a / d < c := (Nat.div_lt_iff_lt_mul hd).2 h
  rw [roundDiv_eq]
  split_ifs <;> omega

theorem le_roundDiv (hd : 0 < d) (h : c * d ≤ a) : c ≤ roundDiv a d := by
  have hq : c ≤ a / d := (Nat.le_div_iff_mul_le hd).2 h
  rw [roundDiv_eq]
  split_ifs <;> omega

/-- Below an even number it is the nearest from the middle on. -/
theorem le_roundDiv_iff (hc : c % 2 = 0) (hd : 0 < d) (h : a < c * d) :
    c ≤ roundDiv a d ↔ (2 * c - 1) * d ≤ 2 * a := by
  have hq : a / d < c := (Nat.div_lt_iff_lt_mul hd).2 h
  have ha : d * (a / d) + a % d = a := Nat.div_add_mod a d
  have hr : a % d < d := Nat.mod_lt a hd
  have hpos : 0 < c := Nat.lt_of_le_of_lt (Nat.zero_le _) hq
  obtain ⟨b, rfl⟩ : ∃ b, c = b + 1 := ⟨c - 1, (Nat.sub_add_cancel hpos).symm⟩
  have hmiddle : (2 * (b + 1) - 1) * d = 2 * (d * b) + d := by
    rw [show 2 * (b + 1) - 1 = 2 * b + 1 by omega]
    ring
  rw [hmiddle, roundDiv_eq]
  rcases Nat.lt_or_eq_of_le (Nat.le_of_lt_succ hq) with hlt | heq
  · have hbelow : d * (a / d + 1) ≤ d * b := Nat.mul_le_mul_left d hlt
    rw [Nat.mul_add, Nat.mul_one] at hbelow
    split_ifs <;> omega
  · rw [heq] at ha ⊢
    split_ifs <;> omega

theorem floorLog2_one (hn : 0 < n) : floorLog2 n 1 = n.log2 := by
  have hlog : twoTo n.log2 ≤ n := Nat.log2_self_le (by omega)
  have hone : Nat.log2 1 = 0 := by decide
  unfold floorLog2
  simp only [hone, twoTo]
  rw [if_pos (by simpa [twoTo] using hlog)]
  omega

def mantissa (n : Nat) : Nat :=
  roundDiv (n * 2 ^ (52 - n.log2)) (2 ^ (n.log2 - 52))

theorem mantissa_bounds (hn : 0 < n) : 2 ^ 52 ≤ mantissa n ∧ mantissa n ≤ 2 ^ 53 := by
  have hlow : 2 ^ n.log2 ≤ n := Nat.log2_self_le (by omega)
  have hhigh : n < 2 ^ (n.log2 + 1) := Nat.lt_log2_self
  have hd : 0 < 2 ^ (n.log2 - 52) := Nat.pow_pos (by decide)
  have hs : 0 < 2 ^ (52 - n.log2) := Nat.pow_pos (by decide)
  have hscaled : 2 ^ n.log2 * 2 ^ (52 - n.log2) = 2 ^ 52 * 2 ^ (n.log2 - 52) := by
    rw [← Nat.pow_add, ← Nat.pow_add]
    congr 1
    omega
  have hdoubled : 2 ^ (n.log2 + 1) * 2 ^ (52 - n.log2) = 2 ^ 53 * 2 ^ (n.log2 - 52) := by
    rw [Nat.pow_succ, Nat.mul_right_comm, hscaled]
    ring
  unfold mantissa
  constructor
  · apply le_roundDiv hd
    rw [← hscaled]
    exact Nat.mul_le_mul_right _ hlow
  · apply roundDiv_le hd
    rw [← hdoubled]
    exact Nat.mul_lt_mul_of_pos_right hhigh hs

theorem nearestBits_one (hn : 0 < n) :
    nearestBits n 1 = min ((n.log2 + 1023) * 2 ^ 52 + (mantissa n - 2 ^ 52)) infinityBits := by
  have hq : max ((n.log2 : Int) - 52) leastExponent = (n.log2 : Int) - 52 := by
    apply max_eq_left
    unfold leastExponent
    omega
  have hdown : (-((n.log2 : Int) - 52)).toNat = 52 - n.log2 := by omega
  have hup : ((n.log2 : Int) - 52).toNat = n.log2 - 52 := by omega
  have hbias : ((n.log2 : Int) - 52 + 1075).toNat = n.log2 + 1023 := by omega
  have hmantissa : ¬mantissa n < 2 ^ 52 := Nat.not_lt.2 (mantissa_bounds hn).1
  unfold nearestBits
  rw [if_neg (by omega), floorLog2_one hn]
  simp only [hq, hdown, hup, hbias, twoTo, Nat.one_mul]
  exact congrArg (min · infinityBits) (if_neg hmantissa)

/-- In every binade the mantissa is rounded up to the next power of two from the middle between this
and the number below it on. -/
theorem mantissa_full_iff {k : Nat} (h : n.log2 = 53 + k) :
    2 ^ 53 ≤ mantissa n ↔ (2 ^ 54 - 1) * 2 ^ k ≤ n := by
  have hhigh : n < 2 ^ (n.log2 + 1) := Nat.lt_log2_self
  have hexponent : 53 + k + 1 = 53 + (k + 1) := by omega
  rw [h, hexponent, Nat.pow_add] at hhigh
  have hmantissa : mantissa n = roundDiv n (2 ^ (k + 1)) := by
    have hdown : 52 - (53 + k) = 0 := by omega
    have hup : 53 + k - 52 = k + 1 := by omega
    rw [mantissa, h, hdown, hup, Nat.pow_zero, Nat.mul_one]
  have hpos : 0 < 2 ^ (k + 1) := Nat.pow_pos Nat.two_pos
  rw [hmantissa, le_roundDiv_iff (by decide) hpos hhigh]
  rw [Nat.pow_succ 2 k] at hhigh ⊢
  generalize 2 ^ k = half at hhigh ⊢
  omega

theorem middle_bounds (k : Nat) :
    2 ^ (53 + k) ≤ (2 ^ 54 - 1) * 2 ^ k ∧ (2 ^ 54 - 1) * 2 ^ k ≤ 2 ^ (53 + k + 1) := by
  rw [Nat.pow_succ 2 (53 + k), Nat.pow_add 2 53 k]
  generalize 2 ^ k = half
  omega

theorem nearestBits_eq_infinity_iff : nearestBits n 1 = infinityBits ↔ overflow ≤ n := by
  have hinfinity : infinityBits = 2047 * 2 ^ 52 := rfl
  -- The exponent gets a name, so that no tactic computes the power.
  obtain ⟨k, hk, hoverflow⟩ : ∃ k, k = 970 ∧ overflow = (2 ^ 54 - 1) * 2 ^ k := ⟨970, rfl, rfl⟩
  obtain ⟨hbelow, habove⟩ := middle_bounds k
  rw [← hoverflow] at hbelow habove
  rcases Nat.eq_zero_or_pos n with rfl | hn
  · have hzero : nearestBits 0 1 = 0 := rfl
    have hpos : 0 < overflow := Nat.lt_of_lt_of_le (Nat.pow_pos Nat.two_pos) hbelow
    rw [hzero, hinfinity]
    omega
  · obtain ⟨hlow, hhigh⟩ := mantissa_bounds hn
    rw [nearestBits_one hn, min_eq_right_iff, hinfinity]
    rcases Nat.lt_trichotomy n.log2 (53 + k) with hlog | hlog | hlog
    · have hsmall : n < overflow :=
        calc n < 2 ^ (n.log2 + 1) := Nat.lt_log2_self
          _ ≤ 2 ^ (53 + k) := Nat.pow_le_pow_right Nat.two_pos hlog
          _ ≤ overflow := hbelow
      omega
    · rw [hoverflow, ← mantissa_full_iff hlog, hlog]
      omega
    · have hlarge : overflow ≤ n :=
        calc overflow ≤ 2 ^ (53 + k + 1) := habove
          _ ≤ 2 ^ n.log2 := Nat.pow_le_pow_right Nat.two_pos hlog
          _ ≤ n := Nat.log2_self_le (Nat.ne_of_gt hn)
      omega

end ChatHost.Decimal
