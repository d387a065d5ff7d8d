import ChatHost.Proofs.Number
import ChatHost.Proofs.OrderedMap
import ChatHost.Proofs.Provider.Tries

set_option autoImplicit false

/-!
The pauses between the tries for a completion. Each is twice as long as the one before, up to the
longest, and the longest when the power of two is beyond the range of doubles. Where a time would
be beyond this range there is none, and the request fails.
-/

namespace ChatHost

open Number

namespace Completion

namespace Backoff

/-- Whether a whole number is doubled until it is beyond the range of doubles, and nothing shortens
it. -/
def Exceeds (shortest longest : Number) (pauses : Nat) : Prop :=
  (∃ n, shortest = .int n) ∧ longest.time = ⊤ ∧ held (shortest.time.map (· * 2 ^ pauses)) = ⊤

variable {shortest longest : Number}

section chosen

variable (hshortest : shortest.IsTime) (hlongest : longest.IsTime)
include hshortest hlongest

end chosen

end Backoff

/-- The number of tries, counted from the first that did not break or has no time to wait after
it. -/
theorem IsLast.count {outcome : Nat → Except Trouble Json} {s : Retries} {last : Nat}
    (h : IsLast outcome s.wait 0 (s.count - 1) last) :
    ((∀ i, Broken (outcome i)) → (∀ i, ∃ time, s.wait i = .ok time) →
        ((last + 1 : Nat) : Int) = max 1 s.most) ∧
      ∀ k, (∀ i < k, Broken (outcome i) ∧ ∃ time, s.wait i = .ok time) →
        ¬(Broken (outcome k) ∧ ∃ time, s.wait k = .ok time) →
          ((last + 1 : Nat) : Int) = min (k + 1 : Int) (max 1 s.most) := by
  have hcount : (s.count : Int) = max 1 s.most := by
    unfold Retries.count
    omega
  have hmost := h.le_most
  have hsettled : last = s.count - 1 ∨
      ¬(Broken (outcome last) ∧ ∃ time, s.wait last = .ok time) := by
    rcases h.settled with hlast | hlast | ⟨f, hlast⟩
    · exact .inl hlast
    · exact .inr fun hboth => hlast hboth.1
    · refine .inr ?_
      rintro ⟨-, time, htime⟩
      cases hlast.symm.trans htime
  refine ⟨fun hall hwaits => ?_, fun k hbefore hk => ?_⟩
  · rcases hsettled with hlast | hlast
    · omega
    · exact absurd ⟨hall last, hwaits last⟩ hlast
  · have hle : last ≤ k := by
      refine Nat.le_of_not_lt fun hlt => hk ?_
      exact ⟨h.broken k (Nat.zero_le k) hlt, h.waited k (Nat.zero_le k) hlt⟩
    rcases hsettled with hlast | hlast
    · omega
    · have hge : k ≤ last := Nat.le_of_not_lt fun hlt => hlast (hbefore last hlt)
      omega

end Completion

namespace Llamafile

open Completion

variable {σ : Type}

end Llamafile

end ChatHost
