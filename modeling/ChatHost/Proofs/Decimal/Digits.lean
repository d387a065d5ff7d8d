import ChatHost.Decimal.Digits
import ChatHost.Text.Digit
import Mathlib.Algebra.Group.Nat.Defs
import Mathlib.Tactic.SplitIfs

set_option autoImplicit false

/-!
Decimal digits written and read back: the number they stand for, how many there are, and with which
one they start.
-/

namespace ChatHost.Decimal

theorem digitsOnto_append (n : Nat) (rest : List Char) :
    digitsOnto n rest = digitsOnto n [] ++ rest := by
  induction n using Nat.strongRecOn generalizing rest with
  | _ n ih =>
    rw [digitsOnto, digitsOnto.eq_1 n []]
    split_ifs with h
    · rfl
    · have hlt : n / 10 < n := by omega
      rw [ih _ hlt (_ :: rest), ih _ hlt [_], List.append_assoc]
      rfl

theorem digits_of_lt {n : Nat} (h : n < 10) : digits n = [digitChar n] := by
  rw [digits, digitsOnto, if_pos h]

theorem digits_of_ge {n : Nat} (h : 10 ≤ n) :
    digits n = digits (n / 10) ++ [digitChar (n % 10)] := by
  rw [digits, digitsOnto, if_neg (by omega), digitsOnto_append]
  rfl

theorem digitChar_isAsciiDigit {d : Nat} (h : d < 10) : Text.isAsciiDigit (digitChar d) := by
  have hall : ∀ d < 10, Text.isAsciiDigit (digitChar d) := by decide
  exact hall d h

theorem asciiDigit_digitChar {d : Nat} (h : d < 10) : asciiDigit? (digitChar d) = some d := by
  have hall : ∀ d < 10, asciiDigit? (digitChar d) = some d := by decide
  exact hall d h

theorem digitChar_ne_zero {d : Nat} (h : d < 10) (hpos : 0 < d) : digitChar d ≠ '0' := by
  have hall : ∀ d < 10, 0 < d → digitChar d ≠ '0' := by decide
  exact hall d h hpos

theorem isAsciiDigit_of_mem_digits (n : Nat) : ∀ c ∈ digits n, Text.isAsciiDigit c := by
  induction n using Nat.strongRecOn with
  | _ n ih =>
    intro c hc
    by_cases h : n < 10
    · rw [digits_of_lt h, List.mem_singleton] at hc
      exact hc ▸ digitChar_isAsciiDigit h
    · rw [digits_of_ge (by omega), List.mem_append, List.mem_singleton] at hc
      rcases hc with hc | rfl
      · exact ih _ (by omega) c hc
      · exact digitChar_isAsciiDigit (by omega)

theorem ofAscii_append (ds : List Char) {d : Nat} (h : d < 10) :
    ofAscii (ds ++ [digitChar d]) = 10 * ofAscii ds + d := by
  have hd : [digitChar d].filterMap asciiDigit? = [d] := by
    rw [List.filterMap_cons, asciiDigit_digitChar h]
    rfl
  rw [ofAscii, List.filterMap_append, hd, ofDigits, List.foldl_append]
  rfl

/-- The digits of a number stand for it. -/
theorem ofAscii_digits (n : Nat) : ofAscii (digits n) = n := by
  induction n using Nat.strongRecOn with
  | _ n ih =>
    by_cases h : n < 10
    · rw [digits_of_lt h, ← List.nil_append [digitChar n], ofAscii_append [] h]
      exact Nat.zero_add n
    · rw [digits_of_ge (by omega), ofAscii_append _ (by omega), ih _ (by omega)]
      omega

/-- A number below a power of ten has no more digits than the exponent says. -/
theorem length_digits_le {n k : Nat} (hk : 0 < k) (h : n < 10 ^ k) : (digits n).length ≤ k := by
  induction k generalizing n with
  | zero => omega
  | succ k ih =>
    by_cases hn : n < 10
    · rw [digits_of_lt hn]
      exact hk
    · have hpos : 0 < k := by
        refine Nat.pos_of_ne_zero fun hzero => ?_
        subst hzero
        omega
      have hdiv : n / 10 < 10 ^ k := by
        rw [Nat.pow_succ] at h
        omega
      rw [digits_of_ge (by omega), List.length_append]
      exact Nat.add_le_add_right (ih hpos hdiv) 1

/-- The first digit of a number that has several is not zero. -/
theorem digits_head (n : Nat) :
    ∃ c ds, digits n = c :: ds ∧ Text.isAsciiDigit c ∧ (c = '0' → n = 0) := by
  induction n using Nat.strongRecOn with
  | _ n ih =>
    by_cases h : n < 10
    · refine ⟨digitChar n, [], digits_of_lt h, digitChar_isAsciiDigit h, fun hc => ?_⟩
      exact Nat.eq_zero_of_not_pos fun hn => digitChar_ne_zero h hn hc
    · obtain ⟨c, ds, hds, hc, hzero⟩ := ih (n / 10) (by omega)
      refine ⟨c, ds ++ [digitChar (n % 10)], ?_, hc, fun h0 => ?_⟩
      · rw [digits_of_ge (by omega), hds]
        rfl
      · have := hzero h0
        omega

theorem hexValue_hexChar {d : Nat} (h : d < 16) : hexValue? (hexChar d) = some d := by
  have hall : ∀ d < 16, hexValue? (hexChar d) = some d := by decide
  exact hall d h

end ChatHost.Decimal
