import ChatHost.Number
import ChatHost.Proofs.Decimal.Bits

set_option autoImplicit false

/-!
Fractions that are doubles. What has a short mantissa on the scale of a power of two is its own
nearest double, as long as it lies in the range of doubles; beyond that the nearest is an infinity.
-/

namespace ChatHost.Decimal

variable {b d m n : Nat} {q : Int} {negative : Bool}

/-- A number that a double could hold, if the range of doubles had no end. -/
def Short (x : ℚ) : Prop :=
  ∃ (m : Nat) (q : Int), m < 2 ^ 53 ∧ leastExponent ≤ q ∧ x = m * 2 ^ q

theorem Short.scaled {x : ℚ} (h : Short x) (times : Nat) : Short (x * 2 ^ times) := by
  obtain ⟨m, q, hm, hq, rfl⟩ := h
  refine ⟨m, q + times, hm, by omega, ?_⟩
  rw [two_zpow_add]
  ring

end ChatHost.Decimal
