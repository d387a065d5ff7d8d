import ChatHost.Proofs.Decimal.Range
import ChatHost.Proofs.Decimal.Ratio

set_option autoImplicit false

/-!
The numbers that round to a double. Whatever lies half-way to the neighbours of a double, or closer,
has it as its nearest.
-/

namespace ChatHost.Decimal

variable {a d m n : Nat} {q : Int}

/-- A positive double in its one form: the mantissa has all of its bits unless the exponent is the
least. -/
structure Canonical (m : Nat) (q : Int) : Prop where
  pos : 0 < m
  lt : m < 2 ^ 53
  least_le : leastExponent ≤ q
  le_most : q ≤ 971
  full : m < 2 ^ 52 → q = leastExponent

/-- The bits of a positive double, but for the sign. -/
def magnitudeBits (m : Nat) (q : Int) : Nat :=
  if m < 2 ^ 52 then m else (q + 1075).toNat * 2 ^ 52 + (m - 2 ^ 52)

theorem magnitudeBits_le (h : Canonical m q) : magnitudeBits m q ≤ infinityBits := by
  have hinfinity : infinityBits = 2047 * 2 ^ 52 := rfl
  have hlt := h.lt
  have hmost := h.le_most
  unfold magnitudeBits
  rw [hinfinity]
  split_ifs <;> omega

theorem two_zpow_add (q : Int) (k : Nat) : (2 : ℚ) ^ (q + k) = 2 ^ k * 2 ^ q := by
  rw [zpow_add₀ (by norm_num), zpow_natCast, mul_comm]

/-- A number that rounds to `m * 2 ^ q`. The next number below a power of two is closer than the
one above. -/
structure Rounds (m : Nat) (q : Int) (x : ℚ) : Prop where
  low : ((m : ℚ) - 1 / 2) * 2 ^ q ≤ x
  high : x ≤ ((m : ℚ) + 1 / 2) * 2 ^ q
  tie : m % 2 = 1 → ((m : ℚ) - 1 / 2) * 2 ^ q < x ∧ x < ((m : ℚ) + 1 / 2) * 2 ^ q
  close : m = 2 ^ 52 → leastExponent < q → ((m : ℚ) - 1 / 4) * 2 ^ q ≤ x

theorem Rounds.pos {x : ℚ} (h : Rounds m q x) (hm : 0 < m) : 0 < x := by
  have hm' : (1 : ℚ) ≤ m := by exact_mod_cast hm
  have hlow : 0 < ((m : ℚ) - 1 / 2) * 2 ^ q := mul_pos (by linarith) (by positivity)
  exact hlow.trans_le h.low

/-- What rounds to a double lies in the range of magnitudes that are read. -/
theorem Rounds.range {x : ℚ} (hx : Rounds m q x) (h : Canonical m q) :
    (10 : ℚ) ^ (-330 : Int) < x ∧ x < 10 ^ (310 : Int) := by
  have hbottom : (2 : ℚ) ^ 1075 < 10 ^ 330 := by
    have hnat : 2 ^ 1075 < 10 ^ 330 := by decide +kernel
    exact_mod_cast hnat
  have htop : (2 : ℚ) ^ 1024 < 10 ^ 310 := by
    have hnat : 2 ^ 1024 < 10 ^ 310 := by decide +kernel
    exact_mod_cast hnat
  have hleast : -1075 ≤ q - 1 := Int.sub_le_sub_right h.least_le 1
  have hmost : q + 53 ≤ 1024 := Int.add_le_add_right h.le_most 53
  have hone : (1 : ℚ) ≤ m := by exact_mod_cast h.pos
  have hfull : (m : ℚ) + 1 ≤ 2 ^ 53 := by exact_mod_cast Nat.succ_le_of_lt h.lt
  constructor
  · calc (10 : ℚ) ^ (-330 : Int) = (10 ^ 330)⁻¹ := by rw [zpow_neg]; rfl
      _ < (2 ^ 1075)⁻¹ := inv_strictAnti₀ (by positivity) hbottom
      _ = 2 ^ (-1075 : Int) := by rw [zpow_neg]; rfl
      _ ≤ 2 ^ (q - 1) := zpow_le_zpow_right₀ one_le_two hleast
      _ = 1 / 2 * 2 ^ q := by rw [zpow_sub_one₀ (by norm_num)]; ring
      _ ≤ ((m : ℚ) - 1 / 2) * 2 ^ q := mul_le_mul_of_nonneg_right (by linarith) (by positivity)
      _ ≤ x := hx.low
  · calc x ≤ ((m : ℚ) + 1 / 2) * 2 ^ q := hx.high
      _ ≤ 2 ^ 53 * 2 ^ q := mul_le_mul_of_nonneg_right (by linarith) (by positivity)
      _ = 2 ^ (q + 53) := (two_zpow_add q 53).symm
      _ ≤ 2 ^ (1024 : Int) := zpow_le_zpow_right₀ one_le_two hmost
      _ < 10 ^ (310 : Int) := by exact_mod_cast htop

/-- The whole number nearest to a quotient is the one that is half-way at most. -/
theorem roundDiv_eq_of_middle (hlow : 2 * (m * d) ≤ 2 * a + d) (hhigh : 2 * a ≤ 2 * (m * d) + d)
    (htie : m % 2 = 1 → 2 * (m * d) < 2 * a + d ∧ 2 * a < 2 * (m * d) + d) (hd : 0 < d) :
    roundDiv a d = m := by
  have ha : d * (a / d) + a % d = a := Nat.div_add_mod a d
  have hr : a % d < d := Nat.mod_lt a hd
  have hbelow : a / d ≤ m := by
    refine Nat.le_of_lt_succ (Nat.lt_of_mul_lt_mul_left (a := 2 * d) ?_)
    rw [Nat.mul_assoc, Nat.mul_assoc, Nat.mul_succ, Nat.mul_comm d m]
    omega
  have habove : m ≤ a / d + 1 := by
    refine Nat.le_of_lt_succ (Nat.lt_of_mul_lt_mul_left (a := 2 * d) ?_)
    rw [Nat.mul_assoc, Nat.mul_assoc, Nat.mul_succ, Nat.mul_succ, Nat.mul_comm d m]
    omega
  rw [roundDiv_eq]
  obtain rfl | hlt := Nat.eq_or_lt_of_le hbelow
  · rw [Nat.mul_comm (a / d) d] at hhigh htie
    split_ifs <;> omega
  · obtain rfl : m = a / d + 1 := by omega
    rw [Nat.add_mul, Nat.one_mul, Nat.mul_comm (a / d) d] at hlow htie
    split_ifs <;> omega

theorem roundDiv_eq_of_value (hd : 0 < d) (hlow : (m : ℚ) - 1 / 2 ≤ a / d)
    (hhigh : (a : ℚ) / d ≤ m + 1 / 2)
    (htie : m % 2 = 1 → (m : ℚ) - 1 / 2 < a / d ∧ (a : ℚ) / d < m + 1 / 2) :
    roundDiv a d = m := by
  have hd' : (0 : ℚ) < d := by exact_mod_cast hd
  rw [le_div_iff₀ hd'] at hlow
  rw [div_le_iff₀ hd'] at hhigh
  rw [lt_div_iff₀ hd', div_lt_iff₀ hd'] at htie
  refine roundDiv_eq_of_middle ?_ ?_ (fun hodd => ?_) hd
  · have h : 2 * ((m : ℚ) * d) ≤ 2 * a + d := by linarith
    exact_mod_cast h
  · have h : 2 * (a : ℚ) ≤ 2 * (m * d) + d := by linarith
    exact_mod_cast h
  · obtain ⟨hbelow, habove⟩ := htie hodd
    have hlow' : 2 * ((m : ℚ) * d) < 2 * a + d := by linarith
    have hhigh' : 2 * (a : ℚ) < 2 * (m * d) + d := by linarith
    exact ⟨by exact_mod_cast hlow', by exact_mod_cast hhigh'⟩

/-- The mantissa of a number on the scale of a power of two. -/
theorem roundDiv_scaled (hd : 0 < d) (hlow : ((m : ℚ) - 1 / 2) * 2 ^ q ≤ n / d)
    (hhigh : (n : ℚ) / d ≤ ((m : ℚ) + 1 / 2) * 2 ^ q)
    (htie : m % 2 = 1 →
      ((m : ℚ) - 1 / 2) * 2 ^ q < n / d ∧ (n : ℚ) / d < ((m : ℚ) + 1 / 2) * 2 ^ q) :
    roundDiv (n * 2 ^ (-q).toNat) (d * 2 ^ q.toNat) = m := by
  have hpower : (0 : ℚ) < 2 ^ q := by positivity
  have hscaled := cast_pow_toNat 2 (by decide) n d (-q)
  rw [neg_neg, Nat.cast_ofNat, zpow_neg, ← div_eq_mul_inv] at hscaled
  rw [← le_div_iff₀ hpower] at hlow
  rw [← div_le_iff₀ hpower] at hhigh
  rw [← lt_div_iff₀ hpower, ← div_lt_iff₀ hpower] at htie
  apply roundDiv_eq_of_value (Nat.mul_pos hd (Nat.pow_pos Nat.two_pos))
  all_goals rwa [hscaled]

theorem nearestBits_eq (hn : 0 < n) (hq : max (floorLog2 n d - 52) leastExponent = q)
    (hm : roundDiv (n * 2 ^ (-q).toNat) (d * 2 ^ q.toNat) = m) :
    nearestBits n d = min (magnitudeBits m q) infinityBits := by
  rw [nearestBits, if_neg hn.ne', hq, ← hm]
  rfl

variable (h : Canonical m q) (hx : Rounds m q (n / d))
include h hx

/-- From the power of two on that has all bits of the mantissa, the exponent is found at once. -/
theorem nearestBits_of_le (hn : 0 < n) (hd : 0 < d)
    (hbinade : q = leastExponent ∨ (2 : ℚ) ^ (q + 52) ≤ n / d) :
    nearestBits n d = magnitudeBits m q := by
  have hmantissa : (m : ℚ) + 1 / 2 < 2 ^ 53 := by
    have hle : m + 1 ≤ 2 ^ 53 := h.lt
    have hle' : (m : ℚ) + 1 ≤ 2 ^ 53 := by exact_mod_cast hle
    linarith
  have hbelow : (n : ℚ) / d < 2 ^ (q + 53) :=
    calc (n : ℚ) / d ≤ ((m : ℚ) + 1 / 2) * 2 ^ q := hx.high
      _ < 2 ^ 53 * 2 ^ q := mul_lt_mul_of_pos_right hmantissa (by positivity)
      _ = 2 ^ (q + 53) := (two_zpow_add q 53).symm
  -- from below the exponent is bounded by the least one, or by the power of two
  have hq : max (floorLog2 n d - 52) leastExponent = q := by
    rcases hbinade with rfl | hbinade
    · obtain ⟨hlow, -⟩ := floorLog2_bounds hn hd
      have hlog := (zpow_lt_zpow_iff_right₀ one_lt_two).1 (hlow.trans_lt hbelow)
      omega
    · rw [floorLog2_eq hn hd hbinade (by rwa [add_assoc])]
      have hleast := h.least_le
      omega
  rw [nearestBits_eq hn hq (roundDiv_scaled hd hx.low hx.high hx.tie)]
  exact min_eq_left (magnitudeBits_le h)

/-- A number below a power of two that rounds to it. -/
theorem mantissa_of_lt (hleast : leastExponent < q) (hbelow : (n : ℚ) / d < 2 ^ (q + 52)) :
    m = 2 ^ 52 := by
  have hpower : (0 : ℚ) < 2 ^ q := by positivity
  have hlow : ((m : ℚ) - 1 / 2) * 2 ^ q < 2 ^ 52 * 2 ^ q :=
    hx.low.trans_lt (hbelow.trans_eq (two_zpow_add q 52))
  have hlt : (m : ℚ) < 2 ^ 52 + 1 := by
    have := lt_of_mul_lt_mul_right hlow hpower.le
    linarith
  have hle : m < 2 ^ 52 + 1 := by exact_mod_cast hlt
  have hge : ¬m < 2 ^ 52 := fun hm => hleast.ne' (h.full hm)
  omega

/-- Right below a power of two the exponent is one less, and the mantissa is rounded up. -/
theorem nearestBits_of_lt (hn : 0 < n) (hd : 0 < d) (hleast : leastExponent < q)
    (hbelow : (n : ℚ) / d < 2 ^ (q + 52)) : nearestBits n d = magnitudeBits m q := by
  obtain rfl := mantissa_of_lt h hx hleast hbelow
  have hclose := hx.close rfl hleast
  -- with one exponent less, a quarter of the unit is half of one, and the mantissa is full
  obtain ⟨p, rfl⟩ : ∃ p, q = p + 1 := ⟨q - 1, by omega⟩
  have hpower : (0 : ℚ) < 2 ^ p := by positivity
  have hhalf : (2 : ℚ) ^ (p + 1) = 2 ^ 1 * 2 ^ p := two_zpow_add p 1
  have hbinade : (2 : ℚ) ^ (p + 1 + 52) = 2 ^ 53 * 2 ^ p := by
    rw [add_assoc]
    exact two_zpow_add p 53
  rw [hbinade] at hbelow
  rw [hhalf] at hclose
  push_cast at hclose
  have hlow : ((2 ^ 53 : Nat) - 1 / 2 : ℚ) * 2 ^ p ≤ n / d := by
    push_cast
    linarith
  have hhigh : (n : ℚ) / d ≤ ((2 ^ 53 : Nat) + 1 / 2 : ℚ) * 2 ^ p := by
    push_cast
    linarith
  have hm : roundDiv (n * 2 ^ (-p).toNat) (d * 2 ^ p.toNat) = 2 ^ 53 :=
    roundDiv_scaled hd hlow hhigh (fun hodd => absurd hodd (by decide))
  have hq : max (floorLog2 n d - 52) leastExponent = p := by
    have hfloor : floorLog2 n d = p + 52 := by
      refine floorLog2_eq hn hd ?_ ?_
      · rw [show (2 : ℚ) ^ (p + 52) = 2 ^ 52 * 2 ^ p from two_zpow_add p 52]
        linarith
      · rw [add_assoc]
        exact hbelow.trans_eq (two_zpow_add p 53).symm
    omega
  have hbits : magnitudeBits (2 ^ 53) p = magnitudeBits (2 ^ 52) (p + 1) := by
    simp only [magnitudeBits, leastExponent] at hleast ⊢
    norm_num
    omega
  rw [nearestBits_eq hn hq hm, hbits]
  exact min_eq_left (magnitudeBits_le h)

theorem nearestBits_of_rounds (hn : 0 < n) (hd : 0 < d) : nearestBits n d = magnitudeBits m q := by
  rcases h.least_le.eq_or_lt with hleast | hleast
  · exact nearestBits_of_le h hx hn hd (.inl hleast.symm)
  · rcases le_or_gt ((2 : ℚ) ^ (q + 52)) (n / d) with hbinade | hbelow
    · exact nearestBits_of_le h hx hn hd (.inr hbinade)
    · exact nearestBits_of_lt h hx hn hd hleast hbelow

end ChatHost.Decimal
