import ChatHost.Proofs.Decimal.Shortest
import Mathlib

set_option autoImplicit false

/-!
A double is the one that is nearest to each number that rounds to it. Its bits are those of its
sign, exponent and mantissa, and all values that stand for no number have the same bits.
-/

namespace ChatHost.Decimal

variable {b m n : Nat} {q e : Int} {negative : Bool} {x : Float}

def signBits (negative : Bool) : Nat :=
  if negative then 2 ^ 63 else 0

theorem toNat_toBits_lt (x : Float) : x.toBits.toNat < 2 ^ 64 :=
  x.toBits.toNat_lt

theorem signBits_add (hb : b < 2 ^ 64) :
    signBits (b / twoTo 63 == 1) + (b / twoTo 52 % twoTo 11 * 2 ^ 52 + b % twoTo 52) = b := by
  have hsign : (b / twoTo 63 == 1) = decide (b / 2 ^ 63 = 1) := rfl
  rw [hsign, signBits]
  simp only [twoTo, Nat.pow_eq, decide_eq_true_eq]
  split_ifs <;> omega

theorem ofBits_finite (hb : b < 2 ^ 64) (h : Binary.ofBits b = .finite negative m q) :
    b = signBits negative + magnitudeBits m q ∧ (0 < m → Canonical m q) := by
  have hsum := signBits_add hb
  have hbiased : b / twoTo 52 % twoTo 11 < 2 ^ 11 := Nat.mod_lt _ (by decide)
  have hfraction : b % twoTo 52 < 2 ^ 52 := Nat.mod_lt _ (by decide)
  unfold Binary.ofBits at h
  generalize b / twoTo 52 % twoTo 11 = biased at hsum hbiased h
  generalize b % twoTo 52 = fraction at hsum hfraction h
  dsimp only at h
  split at h
  · split at h <;> cases h
  split at h
  · next hzero =>
    cases h
    refine ⟨?_, fun hm => ⟨hm, by omega, le_rfl, by decide, fun _ => rfl⟩⟩
    rw [magnitudeBits, if_pos hfraction]
    omega
  · next hmost hzero =>
    cases h
    have hfull : twoTo 52 + fraction = 2 ^ 52 + fraction := rfl
    refine ⟨?_, fun hm => ⟨hm, by omega, ?_, by omega, fun hlt => by omega⟩⟩
    · rw [magnitudeBits, if_neg (by omega)]
      omega
    · unfold leastExponent
      omega

theorem nearest_eq {d : Nat} (h : x.toBits.toNat = signBits negative + nearestBits n d) :
    nearest negative n d = x := by
  have hsign : (if negative then twoTo 63 else 0) = signBits negative := rfl
  rw [nearest, hsign, ← h, UInt64.ofNat_toNat, Float.ofBits_toBits]

/-- A positive double but for its sign, and a number that rounds to it. -/
theorem nearest_of_rounds (h : Binary.ofFloat x = .finite negative m q) (hm : 0 < m) {d : Nat}
    (hn : 0 < n) (hd : 0 < d) (hx : Rounds m q (n / d)) : nearest negative n d = x := by
  obtain ⟨hbits, hcanonical⟩ := ofBits_finite (toNat_toBits_lt x) h
  refine nearest_eq (hbits.trans ?_)
  rw [nearestBits_of_rounds (hcanonical hm) hx hn hd]

theorem nearest_zero (h : Binary.ofFloat x = .finite negative 0 q) : nearest negative 0 1 = x := by
  obtain ⟨hbits, -⟩ := ofBits_finite (toNat_toBits_lt x) h
  exact nearest_eq hbits

theorem infinity_eq (h : Binary.ofFloat x = .infinite negative) : infinity negative = x := by
  have hsum := signBits_add (toNat_toBits_lt x)
  have hbits : nearestBits (twoTo 1024) 1 = 2047 * 2 ^ 52 :=
    nearestBits_eq_infinity_iff.2 (by decide +kernel)
  unfold Binary.ofFloat Binary.ofBits at h
  dsimp only at h
  split_ifs at h with hmost hzero
  cases h
  rw [hmost, hzero, Nat.add_zero] at hsum
  exact nearest_eq (by rw [hbits, hsum])

/-- All values that stand for no number are one. -/
theorem notANumber_eq (h : Binary.ofFloat x = .nan) : notANumber = x := by
  open Float.Model in
  obtain ⟨hmost, hfraction⟩ : x.toBits.toNat / twoTo 52 % twoTo 11 = 2047 ∧
      x.toBits.toNat % twoTo 52 ≠ 0 := by
    unfold Binary.ofFloat Binary.ofBits at h
    dsimp only at h
    split_ifs at h with hmost hzero
    exact ⟨hmost, hzero⟩
  have hexponent : @UnpackedFloat.unpackExponent .binary64 x.toBits.toBitVec = -1#_ := by
    apply BitVec.eq_of_toNat_eq
    simpa [UnpackedFloat.unpackExponent, Nat.shiftRight_eq_div_pow, twoTo] using hmost
  have hmantissa : @UnpackedFloat.unpackMantissa .binary64 x.toBits.toBitVec ≠ 0#_ := by
    intro hzero
    apply hfraction
    simpa [UnpackedFloat.unpackMantissa, twoTo] using congrArg BitVec.toNat hzero
  have hbits : x.toBits = 0x7FF8000000000000 :=
    UInt64.toBitVec_inj.1 ((x.toModel.valid.eq_packedNaN hexponent hmantissa).trans (by decide))
  rw [notANumber, ← hbits, Float.ofBits_toBits]

/-- The reading of a decimal that rounds to a double. -/
theorem nearestScaled_of_rounds (h : Binary.ofFloat x = .finite negative m q) (hm : 0 < m)
    (hn : 0 < n) (hx : Rounds m q (n * 10 ^ e)) : nearestScaled negative n e = x := by
  obtain ⟨-, hcanonical⟩ := ofBits_finite (toNat_toBits_lt x) h
  obtain ⟨hbottom, htop⟩ := hx.range (hcanonical hm)
  obtain ⟨hlow, hhigh⟩ := digits_bounds hn e
  have hleast := (zpow_lt_zpow_iff_right₀ (by norm_num : (1 : ℚ) < 10)).1 (hbottom.trans hhigh)
  have hmost := (zpow_lt_zpow_iff_right₀ (by norm_num : (1 : ℚ) < 10)).1 (hlow.trans_lt htop)
  have hvalue := Ratio.value_decimal n e
  -- neither shortcut is taken: the number is not too small, and not too large
  unfold nearestScaled
  dsimp only
  rw [if_neg (by simp; omega), if_neg (by omega)]
  rw [← hvalue] at hx
  exact nearest_of_rounds h hm (Nat.mul_pos hn (Nat.pow_pos (by decide))) (Ratio.den_decimal n e) hx

end ChatHost.Decimal
