import ChatHost.Http.Location
import Mathlib.Data.List.Enum

set_option autoImplicit false

/-!
The URLs that are not sent. Whatever rules a client has, it is known of them that no request goes to
a URL with a character of control in it.
-/

namespace ChatHost.Http

/-- Whether a character may stand in a URL that is sent. -/
def IsSendable (c : Char) : Prop :=
  0x20 ≤ c.toNat ∧ c.toNat ≠ 0x7F

/-- Whether every URL is refused that holds a character that is not sent. -/
def Rules.RefusesUnsendable (rules : Rules) : Prop :=
  ∀ url, rules.refusal? url = none → ∀ c ∈ url.toList, IsSendable c

end ChatHost.Http
