import ChatHost.Json.Display
import ChatHost.Schema.Validator

/-!
Violations of a schema, and which of many is reported: the one nearest to the root, then the one
that comes last by its path, then one that is no choice among schemas. Of a choice, the violation
is reported that leads deepest into the one alternative that was most likely meant.
-/

namespace ChatHost.Schema

/-- A violation of a schema by a value: where the value stands, the keyword that it violates,
whether it is at least of a type that the schema asks for, and the violations of the alternatives
among which the keyword chooses. -/
structure Violation where
  path : List Step
  message : String
  keyword : String
  typeMatches : Bool
  context : List Violation

def comparePaths : List Step → List Step → Ordering
  | [], [] => .eq
  | [], _ :: _ => .lt
  | _ :: _, [] => .gt
  | a :: as, b :: bs => (a.compare b).then (comparePaths as bs)

def isChoice (keyword : String) : Bool :=
  keyword == "anyOf" || keyword == "oneOf"

/-- The order of truth values, false before true. -/
def compareBools (a b : Bool) : Ordering :=
  Ord.compare a.toNat b.toNat

/-- The order of violations by how much they tell; the greatest is reported. -/
def Violation.compare (a b : Violation) : Ordering :=
  (Ord.compare b.path.length a.path.length).then <|
  (comparePaths a.path b.path).then <|
  (compareBools (!isChoice a.keyword) (!isChoice b.keyword)).then <|
  compareBools (!a.typeMatches) (!b.typeMatches)

def greatest? : List Violation → Option Violation
  | [] => none
  | v :: vs => some (vs.foldl (fun best w => if w.compare best = .gt then w else best) v)

def smallest? : List Violation → Option (Violation × List Violation)
  | [] => none
  | v :: vs =>
    match smallest? vs with
    | none => some (v, [])
    | some (w, rest) =>
      if w.compare v = .lt then some (w, v :: rest) else some (v, w :: rest)

/-- The violation to report among those of a choice, which stand below a path; the choice itself
where its two smallest are equal. The first argument bounds the descent. -/
def refine : Nat → List Step → Violation → List Step × Violation
  | 0, above, v => (above, v)
  | fuel + 1, above, v =>
    match smallest? v.context with
    | none => (above, v)
    | some (w, rest) =>
      match smallest? rest with
      | some (x, _) =>
        if w.compare x = .eq then (above, v) else refine fuel (above ++ v.path) w
      | none => refine fuel (above ++ v.path) w

mutual

/-- How deep choices lie inside of each other in a violation. -/
def Violation.depth : Violation → Nat
  | ⟨_, _, _, _, context⟩ => depths context + 1

def depths : List Violation → Nat
  | [] => 0
  | v :: vs => max v.depth (depths vs)

end

/-- The violation that is reported, with the whole path to its value. -/
def report? (vs : List Violation) : Option Mismatch :=
  (greatest? vs).map fun v =>
    let (above, w) := refine v.depth [] v
    ⟨above ++ w.path, w.message⟩

/-- What checking a value finds: violations, and then perhaps a fault that ends the check. -/
structure Findings where
  violations : List Violation
  fault : Option Fault := none

namespace Findings

def clean : Findings :=
  ⟨[], none⟩

def ofFault (f : Fault) : Findings :=
  ⟨[], some f⟩

/-- What is found first, and then what is found by going on; after a fault nothing more. -/
def andThen (a : Findings) (b : Unit → Findings) : Findings :=
  match a.fault with
  | some _ => a
  | none =>
    let b := b ()
    ⟨a.violations ++ b.violations, b.fault⟩

def forEach {α : Type} (xs : List α) (f : α → Findings) : Findings :=
  match xs with
  | [] => clean
  | x :: xs => (f x).andThen fun _ => forEach xs f

/-- Whether nothing is found; looking stops at the first violation. -/
def isClean (a : Findings) : Except Fault Bool :=
  match a.violations, a.fault with
  | _ :: _, _ => .ok false
  | [], some f => .error f
  | [], none => .ok true

/-- Goes on with the answer to a question that may end in a fault. -/
def afterwards {α : Type} (question : Except Fault α) (f : α → Findings) : Findings :=
  match question with
  | .error e => ofFault e
  | .ok a => f a

def below (step : Step) (a : Findings) : Findings :=
  { a with violations := a.violations.map fun v => { v with path := step :: v.path } }

end Findings

end ChatHost.Schema
