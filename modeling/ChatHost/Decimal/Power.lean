/-!
Powers of the two bases: doubles are written in powers of two, texts in powers of ten.
-/

namespace ChatHost.Decimal

def twoTo (k : Nat) : Nat :=
  Nat.pow 2 k

def tenTo (k : Nat) : Nat :=
  Nat.pow 10 k

end ChatHost.Decimal
