import ChatHost.Decimal.Nearest
import ChatHost.Decimal.Shortest
import ChatHost.Proofs.Decimal.Digits
import Mathlib.Algebra.Order.Field.Power
import Mathlib.Data.Rat.Cast.Order
import Mathlib.Tactic.FieldSimp
import Mathlib.Tactic.Linarith
import Mathlib.Tactic.Positivity

set_option autoImplicit false

/-!
Fractions as the rational numbers that they stand for, and the places of such a number on the scales
of powers of two and of ten.
-/

namespace ChatHost.Decimal

variable {n d : Nat} {e f : Int} {x : ℚ}

theorem cast_pow_toNat (b : Nat) (hb : 0 < b) (n d : Nat) (e : Int) :
    ((n * b ^ e.toNat : Nat) : ℚ) / ((d * b ^ (-e).toNat : Nat) : ℚ) = n / d * (b : ℚ) ^ e := by
  have hbase : (b : ℚ) ≠ 0 := by exact_mod_cast hb.ne'
  have hpower : (b : ℚ) ^ e = (b : ℚ) ^ e.toNat / (b : ℚ) ^ (-e).toNat := by
    rw [← zpow_natCast, ← zpow_natCast, ← zpow_sub₀ hbase]
    congr 1
    omega
  rw [hpower]
  push_cast
  rw [div_mul_div_comm]

def Ratio.value (a : Ratio) : ℚ :=
  a.num / a.den

theorem Ratio.value_scaled (n : Nat) (e : Int) : (Ratio.scaled n e).value = n * (2 : ℚ) ^ e := by
  have h := cast_pow_toNat 2 (by decide) n 1 e
  simpa [Ratio.value, Ratio.scaled, twoTo] using h

theorem Ratio.value_decimal (n : Nat) (e : Int) : (Ratio.decimal n e).value = n * (10 : ℚ) ^ e := by
  have h := cast_pow_toNat 10 (by decide) n 1 e
  simpa [Ratio.value, Ratio.decimal, tenTo] using h

theorem Ratio.den_scaled (n : Nat) (e : Int) : 0 < (Ratio.scaled n e).den :=
  Nat.pow_pos Nat.two_pos

theorem Ratio.den_decimal (n : Nat) (e : Int) : 0 < (Ratio.decimal n e).den :=
  Nat.pow_pos (by decide)

theorem Ratio.le_iff {a b : Ratio} (ha : 0 < a.den) (hb : 0 < b.den) :
    a.le b ↔ a.value ≤ b.value := by
  have ha' : (0 : ℚ) < a.den := by exact_mod_cast ha
  have hb' : (0 : ℚ) < b.den := by exact_mod_cast hb
  rw [Ratio.value, Ratio.value, div_le_div_iff₀ ha' hb', Ratio.le, decide_eq_true_eq]
  exact_mod_cast Iff.rfl

theorem Ratio.lt_iff {a b : Ratio} (ha : 0 < a.den) (hb : 0 < b.den) :
    a.lt b ↔ a.value < b.value := by
  have ha' : (0 : ℚ) < a.den := by exact_mod_cast ha
  have hb' : (0 : ℚ) < b.den := by exact_mod_cast hb
  rw [Ratio.value, Ratio.value, div_lt_div_iff₀ ha' hb', Ratio.lt, decide_eq_true_eq]
  exact_mod_cast Iff.rfl

/-- The whole part of a number on the scale of a power of ten. -/
theorem Ratio.floorAt_le {a : Ratio} (ha : 0 < a.den) (e : Int) :
    (a.floorAt e : ℚ) * 10 ^ e ≤ a.value ∧ a.value < ((a.floorAt e : ℚ) + 1) * 10 ^ e := by
  have hten : (0 : ℚ) < (10 : ℚ) ^ e := by positivity
  have hscaled : a.value / (10 : ℚ) ^ e =
      ((a.num * 10 ^ (-e).toNat : Nat) : ℚ) / ((a.den * 10 ^ e.toNat : Nat) : ℚ) := by
    have h := cast_pow_toNat 10 (by decide) a.num a.den (-e)
    rw [neg_neg] at h
    rw [h, Ratio.value, zpow_neg]
    push_cast
    rw [div_eq_mul_inv (_ / _)]
  have hden : 0 < a.den * 10 ^ e.toNat := Nat.mul_pos ha (Nat.pow_pos (by decide))
  have hden' : (0 : ℚ) < ((a.den * 10 ^ e.toNat : Nat) : ℚ) := by exact_mod_cast hden
  have hfloor : a.floorAt e = a.num * 10 ^ (-e).toNat / (a.den * 10 ^ e.toNat) := rfl
  rw [← le_div_iff₀ hten, ← div_lt_iff₀ hten, hscaled, le_div_iff₀ hden', div_lt_iff₀ hden', hfloor]
  constructor
  · exact_mod_cast Nat.div_mul_le_self _ _
  · exact_mod_cast (Nat.div_lt_iff_lt_mul hden).1 (Nat.lt_succ_self _)

theorem digitCount_bounds (hn : 0 < n) : 10 ^ (digitCount n - 1) ≤ n ∧ n < 10 ^ digitCount n := by
  induction n using Nat.strongRecOn with
  | _ n ih =>
    rw [digitCount, if_neg hn.ne', Nat.add_sub_cancel]
    by_cases h : n / 10 = 0
    · rw [h, digitCount, if_pos rfl]
      omega
    · obtain ⟨hlow, hhigh⟩ := ih (n / 10) (by omega) (Nat.pos_of_ne_zero h)
      obtain ⟨k, hk⟩ : ∃ k, digitCount (n / 10) = k + 1 := by
        rw [digitCount, if_neg h]
        exact ⟨_, rfl⟩
      rw [hk, Nat.add_sub_cancel] at hlow
      rw [hk, Nat.pow_succ] at hhigh
      simp only [hk, Nat.pow_succ]
      generalize 10 ^ k = power at hlow hhigh ⊢
      omega

theorem length_digits (hn : 0 < n) : (digits n).length = digitCount n := by
  induction n using Nat.strongRecOn with
  | _ n ih =>
    rw [digitCount, if_neg hn.ne']
    by_cases h : n < 10
    · have hdiv : n / 10 = 0 := by omega
      rw [digits_of_lt h, hdiv, digitCount, if_pos rfl]
      rfl
    · rw [digits_of_ge (by omega), List.length_append, ih (n / 10) (by omega) (by omega)]
      rfl

theorem digits_bounds (hn : 0 < n) (e : Int) :
    (10 : ℚ) ^ ((digits n).length + e - 1) ≤ n * 10 ^ e ∧
      n * (10 : ℚ) ^ e < 10 ^ ((digits n).length + e) := by
  obtain ⟨hlow, hhigh⟩ := digitCount_bounds hn
  have hlow' : (10 : ℚ) ^ (digitCount n - 1) ≤ n := by exact_mod_cast hlow
  have hhigh' : (n : ℚ) < 10 ^ digitCount n := by exact_mod_cast hhigh
  have hpower : (0 : ℚ) < 10 ^ e := by positivity
  have hpos : 0 < digitCount n := by
    rw [digitCount, if_neg hn.ne']
    exact Nat.succ_pos _
  have hexponent : (digitCount n : Int) + e - 1 = (digitCount n - 1 : Nat) + e := by omega
  rw [length_digits hn]
  constructor
  · rw [hexponent, zpow_add₀ (by norm_num), zpow_natCast]
    exact mul_le_mul_of_nonneg_right hlow' hpower.le
  · rw [zpow_add₀ (by norm_num), zpow_natCast]
    exact mul_lt_mul_of_pos_right hhigh' hpower

/-- The power of ten below a number, on the scale of its digits. -/
theorem Ratio.floorLog10_le {a : Ratio} (hnum : 0 < a.num) (hden : 0 < a.den) :
    (10 : ℚ) ^ a.floorLog10 ≤ a.value := by
  unfold Ratio.floorLog10
  dsimp only
  split_ifs with h
  · have hvalue := (Ratio.le_iff (Ratio.den_decimal 1 _) hden).1 h
    rwa [Ratio.value_decimal, Nat.cast_one, one_mul] at hvalue
  · obtain ⟨hlow, -⟩ := digitCount_bounds hnum
    obtain ⟨-, hhigh⟩ := digitCount_bounds hden
    have hden' : (0 : ℚ) < a.den := by exact_mod_cast hden
    have hlow' : (10 : ℚ) ^ (digitCount a.num - 1) ≤ a.num := by exact_mod_cast hlow
    have hhigh' : (a.den : ℚ) < (10 : ℚ) ^ digitCount a.den := by exact_mod_cast hhigh
    have hpos : 0 < digitCount a.num := by
      rw [digitCount, if_neg hnum.ne']
      exact Nat.succ_pos _
    have hexponent : ((digitCount a.num : Int) - digitCount a.den - 1) + (digitCount a.den : Int) =
        ((digitCount a.num - 1 : Nat) : Int) := by omega
    rw [Ratio.value, le_div_iff₀ hden']
    calc (10 : ℚ) ^ ((digitCount a.num : Int) - digitCount a.den - 1) * a.den
        ≤ (10 : ℚ) ^ ((digitCount a.num : Int) - digitCount a.den - 1) *
          (10 : ℚ) ^ digitCount a.den :=
          mul_le_mul_of_nonneg_left hhigh'.le (by positivity)
      _ = (10 : ℚ) ^ (digitCount a.num - 1) := by
          rw [← zpow_natCast, ← zpow_natCast, ← zpow_add₀ (by norm_num), hexponent]
      _ ≤ a.num := hlow'

/-- The powers of two around a number. -/
theorem floorLog2_bounds (hn : 0 < n) (hd : 0 < d) :
    (2 : ℚ) ^ floorLog2 n d ≤ n / d ∧ (n : ℚ) / d < (2 : ℚ) ^ (floorLog2 n d + 1) := by
  have hn' : (0 : ℚ) < n := by exact_mod_cast hn
  have hd' : (0 : ℚ) < d := by exact_mod_cast hd
  have hnlow : (2 : ℚ) ^ n.log2 ≤ n := by exact_mod_cast Nat.log2_self_le hn.ne'
  have hnhigh : (n : ℚ) < (2 : ℚ) ^ (n.log2 + 1) := by exact_mod_cast Nat.lt_log2_self
  have hdlow : (2 : ℚ) ^ d.log2 ≤ d := by exact_mod_cast Nat.log2_self_le hd.ne'
  have hdhigh : (d : ℚ) < (2 : ℚ) ^ (d.log2 + 1) := by exact_mod_cast Nat.lt_log2_self
  generalize he : (n.log2 : Int) - d.log2 = e
  -- the exponent is that of the number, or one too many
  have hbelow : (2 : ℚ) ^ (e - 1) < n / d := by
    rw [lt_div_iff₀ hd']
    calc (2 : ℚ) ^ (e - 1) * d < (2 : ℚ) ^ (e - 1) * (2 : ℚ) ^ (d.log2 + 1) :=
          mul_lt_mul_of_pos_left hdhigh (by positivity)
      _ = (2 : ℚ) ^ n.log2 := by
          rw [← zpow_natCast, ← zpow_natCast, ← zpow_add₀ (by norm_num)]
          congr 1
          push_cast
          omega
      _ ≤ n := hnlow
  have habove : (n : ℚ) / d < (2 : ℚ) ^ (e + 1) := by
    rw [div_lt_iff₀ hd']
    calc (n : ℚ) < (2 : ℚ) ^ (n.log2 + 1) := hnhigh
      _ = (2 : ℚ) ^ (e + 1) * (2 : ℚ) ^ d.log2 := by
          rw [← zpow_natCast, ← zpow_natCast, ← zpow_add₀ (by norm_num)]
          congr 1
          push_cast
          omega
      _ ≤ (2 : ℚ) ^ (e + 1) * d := mul_le_mul_of_nonneg_left hdlow (by positivity)
  have hcheck : d * twoTo e.toNat ≤ n * twoTo (-e).toNat ↔ (2 : ℚ) ^ e ≤ n / d := by
    have hle := Ratio.le_iff (a := Ratio.scaled 1 e) (b := ⟨n, d⟩) (Ratio.den_scaled 1 e) hd
    rw [Ratio.value_scaled, Nat.cast_one, one_mul, Ratio.le, decide_eq_true_eq] at hle
    rw [show (2 : ℚ) ^ e ≤ n / d ↔ (2 : ℚ) ^ e ≤ Ratio.value ⟨n, d⟩ from Iff.rfl, ← hle]
    simp only [Ratio.scaled, Nat.one_mul, Nat.mul_comm]
  unfold floorLog2
  rw [he]
  dsimp only
  split_ifs with h
  · exact ⟨hcheck.1 h, habove⟩
  · rw [sub_add_cancel]
    exact ⟨hbelow.le, not_le.1 fun hle => h (hcheck.2 hle)⟩

/-- The power of two below a number is the only one with the number below its double. -/
theorem floorLog2_eq (hn : 0 < n) (hd : 0 < d) (hlow : (2 : ℚ) ^ e ≤ n / d)
    (hhigh : (n : ℚ) / d < (2 : ℚ) ^ (e + 1)) : floorLog2 n d = e := by
  obtain ⟨hlow', hhigh'⟩ := floorLog2_bounds hn hd
  have hle := (zpow_lt_zpow_iff_right₀ (by norm_num : (1 : ℚ) < 2)).1 (hlow.trans_lt hhigh')
  have hge := (zpow_lt_zpow_iff_right₀ (by norm_num : (1 : ℚ) < 2)).1 (hlow'.trans_lt hhigh)
  omega

end ChatHost.Decimal
