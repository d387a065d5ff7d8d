import ChatHost.Json.Basic

/-!
When schemas take two values for the same: numbers by their exact values, so that `1` and `1.0` are
alike, and truth values only with each other. A NaN is alike to a NaN.
-/

namespace ChatHost.Schema

def alikeNumbers (a b : Number) : Bool :=
  match a.value, b.value with
  | .nan, .nan => true
  | _, _ => a.same b

mutual

def alike : Json → Json → Bool
  | .null, .null => true
  | .bool a, .bool b => a == b
  | .num a, .num b => alikeNumbers a b
  | .str a, .str b => a == b
  | .arr xs, .arr ys => alikeItems xs ys
  | .obj xs, .obj ys => xs.length == ys.length && alikeMembers xs ys
  | _, _ => false

def alikeItems : List Json → List Json → Bool
  | [], [] => true
  | x :: xs, y :: ys => alike x y && alikeItems xs ys
  | _, _ => false

def alikeMembers : List (String × Json) → List (String × Json) → Bool
  | [], _ => true
  | (k, v) :: ms, ys =>
    (match OrderedMap.get? ys k with
      | some w => alike v w
      | none => false) && alikeMembers ms ys

end

def allDistinct : List Json → Bool
  | [] => true
  | x :: xs => !xs.any (alike x) && allDistinct xs

end ChatHost.Schema
