import ChatHost.Proofs.Decimal.Exact

set_option autoImplicit false

/-!
Numbers as times. A time is not negative, perhaps infinite, and has an exact value that doubles can
hold; such times are compared, doubled and rounded without a loss.
-/

namespace ChatHost.Number

open Decimal

def Value.time : Value → WithTop ℚ
  | .nan | .infinite _ => ⊤
  | .finite n d => ((n / d : ℚ) : WithTop ℚ)

def time (a : Number) : WithTop ℚ :=
  a.value.time

/-- A number that is a time: not less than zero, and equal to a double. -/
structure IsTime (a : Number) : Prop where
  nonneg : (Number.int 0).atMost a = true
  double : ∃ x : Float, (Number.real x).time = a.time

/-- A value that is a time, but perhaps beyond the range of doubles. -/
def Value.IsTime : Value → Prop
  | .nan => False
  | .infinite negative => negative = false
  | .finite n d => 0 ≤ n ∧ 0 < d ∧ Short (n / d)

/-- A time as a double holds it: infinite beyond the range of doubles. -/
def held (t : WithTop ℚ) : WithTop ℚ :=
  if t < (2 ^ 1024 : ℚ) then t else ⊤

variable {v w : Value} {a : Number}

theorem Value.IsTime.zero_le (hv : v.IsTime) : 0 ≤ v.time := by
  cases v with
  | nan => exact hv.elim
  | infinite negative => exact le_top
  | finite n d =>
    have hn : (0 : ℚ) ≤ n := by exact_mod_cast hv.1
    exact WithTop.coe_le_coe.2 (div_nonneg hn d.cast_nonneg)

theorem Value.IsTime.doubled (hv : v.IsTime) (times : Nat) : (v.doubled times).IsTime := by
  cases v with
  | nan => exact hv.elim
  | infinite negative => exact hv
  | finite n d =>
    obtain ⟨hn, hd, hshort⟩ := hv
    refine ⟨Int.mul_nonneg hn (by simp), hd, ?_⟩
    have hvalue : ((n * twoTo times : Int) : ℚ) / d = n / d * 2 ^ times := by
      simp only [twoTo, Nat.pow_eq]
      push_cast
      ring
    exact hvalue ▸ hshort.scaled times

theorem time_real {x : Float} {negative : Bool} {m : Nat} {q : Int}
    (h : Binary.ofFloat x = .finite negative m q) :
    (Number.real x).time = ((if negative then -(m * 2 ^ q) else m * 2 ^ q : ℚ) : WithTop ℚ) := by
  have hvalue : ((m * 2 ^ q.toNat : Nat) : ℚ) / ((2 ^ (-q).toNat : Nat) : ℚ) = m * 2 ^ q := by
    simpa using cast_pow_toNat 2 (by decide) m 1 q
  rw [← hvalue]
  simp only [time, Number.value, h, Value.time, twoTo, Nat.pow_eq, WithTop.coe_inj]
  split_ifs
  · rw [Int.cast_neg, Int.cast_natCast, neg_div]
  · rw [Int.cast_natCast]

/-- What a finite time is that equals a double. -/
theorem short_of_real {x : Float} {t : ℚ} (h : (Number.real x).time = t) (ht : 0 ≤ t) :
    Short t ∧ t < 2 ^ 1024 := by
  cases hx : Binary.ofFloat x with
  | nan =>
    simp [time, Number.value, hx, Value.time] at h
  | infinite negative =>
    simp [time, Number.value, hx, Value.time] at h
  | finite negative m q =>
    rw [time_real hx, WithTop.coe_inj] at h
    obtain ⟨-, hcanonical⟩ := ofBits_finite (toNat_toBits_lt x) hx
    have hpower : (0 : ℚ) < 2 ^ q := by positivity
    rcases Nat.eq_zero_or_pos m with rfl | hm
    · obtain rfl : t = 0 := by
        rw [← h]
        split_ifs <;> simp
      exact ⟨⟨0, leastExponent, by decide, le_rfl, by simp⟩, by positivity⟩
    · have hcanonical := hcanonical hm
      have hm' : (0 : ℚ) < m := by exact_mod_cast hm
      have hpos : 0 < (m : ℚ) * 2 ^ q := mul_pos hm' hpower
      cases negative with
      | true =>
        rw [if_pos rfl] at h
        linarith
      | false =>
        rw [if_neg Bool.false_ne_true] at h
        have hlt : (m : ℚ) < 2 ^ 53 := by exact_mod_cast hcanonical.lt
        have hmost : q + 53 ≤ ((1024 : Nat) : Int) := by
          have := hcanonical.le_most
          omega
        refine ⟨⟨m, q, hcanonical.lt, hcanonical.least_le, h.symm⟩, ?_⟩
        calc t = m * 2 ^ q := h.symm
          _ < 2 ^ 53 * 2 ^ q := mul_lt_mul_of_pos_right hlt hpower
          _ = 2 ^ (q + 53) := (two_zpow_add q 53).symm
          _ ≤ 2 ^ ((1024 : Nat) : Int) := zpow_le_zpow_right₀ one_le_two hmost
          _ = 2 ^ 1024 := zpow_natCast _ _

/-- A number that is a time is infinite, or a fraction that doubles hold. -/
theorem IsTime.cases (h : a.IsTime) :
    a.value = .infinite false ∨
      ∃ n d, a.value = .finite n d ∧ (Value.finite n d).IsTime ∧ (n / d : ℚ) < 2 ^ 1024 := by
  have hnonneg := h.nonneg
  have hzero : (Number.int 0).value = .finite 0 1 := rfl
  have hden : ∀ n d, a.value = .finite n d → 0 < d := by
    intro n d hd
    cases a with
    | int z => cases hd; exact Nat.one_pos
    | real x =>
      simp only [Number.value] at hd
      split at hd <;> cases hd
      exact Nat.pow_pos Nat.two_pos
  simp only [atMost, less, same, Number.compare?, Value.less, hzero] at hnonneg
  cases hv : a.value with
  | nan => simp [hv, Value.compare?] at hnonneg
  | infinite negative =>
    cases negative with
    | false => exact .inl rfl
    | true => simp [hv, Value.compare?] at hnonneg
  | finite n d =>
    have hn : compare 0 n = .lt ∨ compare 0 n = .eq := by
      simpa [hv, Value.compare?] using hnonneg
    rw [compare_lt_iff_lt, compare_eq_iff_eq] at hn
    have hn : 0 ≤ n := by omega
    have hd := hden n d hv
    obtain ⟨x, hx⟩ := h.double
    have htime : a.time = ((n / d : ℚ) : WithTop ℚ) := by
      rw [time, hv]
      rfl
    have ht : (0 : ℚ) ≤ n / d := div_nonneg (by exact_mod_cast hn) (by exact_mod_cast hd.le)
    obtain ⟨hshort, hlt⟩ := short_of_real (hx.trans htime) ht
    exact .inr ⟨n, d, rfl, ⟨hn, hd, hshort⟩, hlt⟩

theorem IsTime.value (h : a.IsTime) : a.value.IsTime := by
  rcases h.cases with hv | ⟨n, d, hv, htime, -⟩
  · rw [hv]
    rfl
  · rwa [hv]

end ChatHost.Number
