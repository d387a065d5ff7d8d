import ChatHost.Json.Basic

/-!
Looking into JSON values that are expected to have a certain form. A member that is absent and one
that is null are the same here.
-/

namespace ChatHost.Json

/-- The member at a key, unless it is null. -/
def valueAt? (v : Json) (k : String) : Option Json :=
  (v.member? k).filter fun m => !m.isNull

def valueAt (v : Json) (k : String) : Json :=
  (v.member? k).getD .null

/-- The items of a list; no other value has any. -/
def itemList : Json → List Json
  | .arr items => items
  | _ => []

/-- The members of an object; no other value has any. -/
def memberList (v : Json) : List (String × Json) :=
  v.members?.getD []

/-- A text; that of a value which is none is empty. -/
def word (v : Json) : String :=
  v.str?.getD ""

def words (v : Json) : List String :=
  v.itemList.map word

def textAt? (v : Json) (k : String) : Option String :=
  (v.valueAt? k).bind str?

def textAt (v : Json) (k : String) (other : String := "") : String :=
  (v.textAt? k).getD other

/-- The truth value at a key, or another. -/
def flagAt (v : Json) (k : String) (other : Bool := false) : Bool :=
  match v.valueAt? k with
  | some (.bool b) => b
  | _ => other

def numberAt? (v : Json) (k : String) : Option Number :=
  match v.valueAt? k with
  | some (.num n) => some n
  | _ => none

def wholeAt? (v : Json) (k : String) : Option Int :=
  match v.valueAt? k with
  | some (.num (.int n)) => some n
  | _ => none

/-- The natural number at a key, or another; a negative number counts as zero. -/
def naturalAt (v : Json) (k : String) (other : Nat := 0) : Nat :=
  ((v.wholeAt? k).map Int.toNat).getD other

def itemsAt (v : Json) (k : String) : List Json :=
  (v.valueAt k).itemList

def membersAt (v : Json) (k : String) : List (String × Json) :=
  (v.valueAt k).memberList

def wordsAt (v : Json) (k : String) : List String :=
  (v.valueAt k).words

mutual

/-- The value with a function applied to every text in it, keys included. -/
def mapTexts (f : String → String) : Json → Json
  | .str s => .str (f s)
  | .arr items => .arr (mapItems f items)
  | .obj ms => .obj (mapMembers f ms)
  | v => v

def mapItems (f : String → String) : List Json → List Json
  | [] => []
  | item :: items => mapTexts f item :: mapItems f items

def mapMembers (f : String → String) : List (String × Json) → List (String × Json)
  | [] => []
  | (k, v) :: ms => (f k, mapTexts f v) :: mapMembers f ms

end

end ChatHost.Json
