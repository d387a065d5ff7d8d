import ChatHost.Decimal.Shortest
import ChatHost.Proofs.Decimal.Nearest

set_option autoImplicit false

/-!
The decimal that is chosen for a double rounds to it. A grid point is taken only in the interval
around the double; and on the last grid, which is taken without a test, the points are so close that
the one below the double rounds to it.
-/

namespace ChatHost.Decimal

variable {m : Nat} {q : Int}

theorem two_zpow_quarter (q : Int) : (2 : ℚ) ^ q = 4 * 2 ^ (q - 2) := by
  have h := two_zpow_add (q - 2) 2
  rw [Nat.cast_ofNat, sub_add_cancel] at h
  rw [h]
  norm_num

theorem around_low (hm : 0 < m) (q : Int) :
    (Interval.around m q).low.value =
      ((m : ℚ) - if m = 2 ^ 52 ∧ leastExponent < q then 1 / 4 else 1 / 2) * 2 ^ q := by
  have hcond : (decide (m = twoTo 52) && decide (leastExponent < q)) = true ↔
      m = 2 ^ 52 ∧ leastExponent < q := by
    rw [Bool.and_eq_true, decide_eq_true_iff, decide_eq_true_iff]
    rfl
  rw [Interval.around, Ratio.value_scaled, two_zpow_quarter q]
  simp only [hcond]
  split_ifs
  · rw [Nat.cast_sub (by omega)]
    push_cast
    ring
  · rw [Nat.cast_sub (by omega)]
    push_cast
    ring

theorem around_high (m : Nat) (q : Int) :
    (Interval.around m q).high.value = ((m : ℚ) + 1 / 2) * 2 ^ q := by
  rw [Interval.around, Ratio.value_scaled, two_zpow_quarter q]
  push_cast
  ring

/-- What the interval around a double holds rounds to it. -/
theorem rounds_of_holds (hm : 0 < m) {a : Ratio} (ha : 0 < a.den)
    (h : (Interval.around m q).holds a) : Rounds m q a.value := by
  have hlow := around_low hm q
  have hhigh := around_high m q
  have hlowDen : 0 < (Interval.around m q).low.den := Ratio.den_scaled _ _
  have hhighDen : 0 < (Interval.around m q).high.den := Ratio.den_scaled _ _
  have hpower : (0 : ℚ) < 2 ^ q := by positivity
  have hhalf : ((m : ℚ) - 1 / 2) * 2 ^ q ≤ (Interval.around m q).low.value := by
    rw [hlow]
    refine mul_le_mul_of_nonneg_right ?_ hpower.le
    split_ifs <;> linarith
  have hclose (hfull : m = 2 ^ 52) (hleast : leastExponent < q) :
      ((m : ℚ) - 1 / 4) * 2 ^ q = (Interval.around m q).low.value := by
    rw [hlow, if_pos ⟨hfull, hleast⟩]
  unfold Interval.holds at h
  split_ifs at h with hclosed
  · rw [Bool.and_eq_true, Ratio.le_iff hlowDen ha, Ratio.le_iff ha hhighDen, hhigh] at h
    have heven : m % 2 = 0 := of_decide_eq_true hclosed
    exact ⟨hhalf.trans h.1, h.2, fun hodd => by omega,
      fun hfull hleast => (hclose hfull hleast).trans_le h.1⟩
  · rw [Bool.and_eq_true, Ratio.lt_iff hlowDen ha, Ratio.lt_iff ha hhighDen, hhigh] at h
    exact ⟨hhalf.trans h.1.le, h.2.le, fun _ => ⟨hhalf.trans_lt h.1, h.2⟩,
      fun hfull hleast => (hclose hfull hleast).trans_le h.1.le⟩

/-- What is just below a double rounds to it. -/
theorem rounds_of_below {x : ℚ} (hlow : ((m : ℚ) - 1 / 4) * 2 ^ q < x) (hhigh : x ≤ m * 2 ^ q) :
    Rounds m q x := by
  have hpower : (0 : ℚ) < 2 ^ q := by positivity
  refine ⟨?_, ?_, fun _ => ⟨?_, ?_⟩, fun _ _ => hlow.le⟩ <;> linarith

/-- A grid point that is taken lies in the interval. -/
theorem holds_gridPoint {i : Interval} {a : Ratio} {e : Int} {n : Nat}
    (h : gridPoint? i a e = some n) : i.holds (.decimal n e) := by
  unfold gridPoint? at h
  dsimp only at h
  split at h
  · next hlow hhigh =>
    cases h
    unfold nearerNeighbour
    dsimp only
    split_ifs <;> assumption
  · next hlow _ =>
    cases h
    exact hlow
  · next hhigh =>
    cases h
    exact hhigh
  · cases h

/-- The finer grids end in a point of the interval, or in the one below the number on the last. -/
theorem finerGrids_cases (i : Interval) (a : Ratio) (tries : Nat) (e : Int) {n : Nat} {p : Int}
    (h : finerGrids i a tries e = (n, p)) :
    i.holds (.decimal n p) ∨ p = e - tries ∧ n = a.floorAt p := by
  induction tries generalizing e with
  | zero =>
    cases h
    exact .inr ⟨by simp, rfl⟩
  | succ tries ih =>
    rw [finerGrids] at h
    split at h
    · next hpoint =>
      cases h
      exact .inl (holds_gridPoint hpoint)
    · refine (ih _ h).imp_right fun ⟨hp, hn⟩ => ⟨?_, hn⟩
      omega

/-- Seventeen digits below the first of a double, the grid is finer than a quarter of its unit. -/
theorem grid_lt (hm : 0 < m) (hlt : m < 2 ^ 53) :
    (10 : ℚ) ^ ((Ratio.scaled m q).floorLog10 - 17) < 1 / 4 * 2 ^ q := by
  have hpower : (0 : ℚ) < 2 ^ q := by positivity
  have hlog := Ratio.floorLog10_le (a := Ratio.scaled m q)
    (Nat.mul_pos hm (Nat.pow_pos Nat.two_pos)) (Ratio.den_scaled m q)
  have hmantissa : (m : ℚ) < 2 ^ 53 := by exact_mod_cast hlt
  rw [Ratio.value_scaled] at hlog
  rw [zpow_sub₀ (by norm_num), div_lt_iff₀ (by positivity)]
  calc (10 : ℚ) ^ (Ratio.scaled m q).floorLog10 ≤ m * 2 ^ q := hlog
    _ < 2 ^ 53 * 2 ^ q := mul_lt_mul_of_pos_right hmantissa hpower
    _ ≤ 1 / 4 * 10 ^ 17 * 2 ^ q := mul_le_mul_of_nonneg_right (by norm_num) hpower.le
    _ = 1 / 4 * 2 ^ q * 10 ^ (17 : Int) := by norm_num; ring

/-- The shortest decimal of a double rounds to it. -/
theorem rounds_shortest (hm : 0 < m) (hlt : m < 2 ^ 53) {n : Nat} {e : Int}
    (h : shortest m q = (n, e)) : Rounds m q (n * 10 ^ e) := by
  rcases finerGrids_cases _ _ _ _ h with hholds | ⟨he, hn⟩
  · rw [← Ratio.value_decimal]
    exact rounds_of_holds hm (Ratio.den_decimal n e) hholds
  · -- the last grid is taken untested, but the point is less than its step below the double
    obtain ⟨hbelow, habove⟩ := Ratio.floorAt_le (Ratio.den_scaled m q) e
    have hgrid : (10 : ℚ) ^ e < 1 / 4 * 2 ^ q := he ▸ grid_lt hm hlt
    rw [← hn, Ratio.value_scaled] at hbelow habove
    exact rounds_of_below (by linarith) hbelow

end ChatHost.Decimal
