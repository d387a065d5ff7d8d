import ChatHost.Fault
import ChatHost.Json.Basic

/-!
What a validator of arguments against schemas gives.
-/

namespace ChatHost.Schema

inductive Step where
  | key (name : String)
  | index (i : Nat)
  deriving DecidableEq, Repr

def Step.text : Step → String
  | .key name => name
  | .index i => toString i

def Step.compare : Step → Step → Ordering
  | .key a, .key b => Ord.compare a b
  | .index i, .index j => Ord.compare i j
  | .index _, .key _ => .lt
  | .key _, .index _ => .gt

/-- Where a value does not fit a schema, and how it fails to. -/
structure Mismatch where
  path : List Step
  message : String
  deriving DecidableEq, Repr

/-- A validator, from outside. Each of its answers may break off instead. -/
structure Validator where
  /-- What is wrong with a schema itself, if anything. -/
  flaw? : Json → Except Fault (Option String)
  /-- What of a value is reported not to fit a schema, if anything. -/
  mismatch? : Json → Json → Except Fault (Option Mismatch)

end ChatHost.Schema
