import ChatHost.Number
import ChatHost.OrderedMap
import ChatHost.Text.Letter

/-!
JSON values. Objects keep the order of their members; whole numbers and doubles stay apart. Strings
are of one kind of text or another; without a word about it they are made of characters only.
-/

namespace ChatHost

inductive Json (τ : Type := String) where
  | null
  | bool (b : Bool)
  | num (n : Number)
  | str (s : τ)
  | arr (items : List (Json τ))
  | obj (members : List (τ × Json τ))

instance : Inhabited Json := ⟨.null⟩

namespace Json

variable {τ : Type}

def ofInt (n : Int) : Json τ :=
  .num (.int n)

def ofReal (x : Float) : Json τ :=
  .num (.real x)

def ofStrings (xs : List τ) : Json τ :=
  .arr (xs.map .str)

def ofOption (f : α → Json τ) : Option α → Json τ
  | none => .null
  | some a => f a

def str? : Json τ → Option τ
  | .str s => some s
  | _ => none

def members? : Json τ → Option (List (τ × Json τ))
  | .obj ms => some ms
  | _ => none

def member? [BEq τ] (k : τ) : Json τ → Option (Json τ)
  | .obj ms => OrderedMap.get? ms k
  | _ => none

def strings? : Json τ → Option (List τ)
  | .arr items => items.mapM str?
  | _ => none

/-- Whether a value counts as true: all but null, false, zero and what is empty. -/
def isTruthy : Json → Bool
  | .null => false
  | .bool b => b
  | .num n => n.isNonzero
  | .str s => !s.isEmpty
  | .arr items => !items.isEmpty
  | .obj ms => !ms.isEmpty

mutual

def isFinite : Json τ → Bool
  | .num (.real x) => Decimal.isFinite x
  | .arr items => areFinite items
  | .obj ms => membersFinite ms
  | _ => true

def areFinite : List (Json τ) → Bool
  | [] => true
  | v :: vs => isFinite v && areFinite vs

def membersFinite : List (τ × Json τ) → Bool
  | [] => true
  | (_, v) :: ms => isFinite v && membersFinite ms

end

def isNull : Json τ → Bool
  | .null => true
  | _ => false

end Json

end ChatHost
