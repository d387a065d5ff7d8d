import ChatHost.Regex.Parser
import ChatHost.Schema.Alike
import ChatHost.Schema.Dialect

/-!
Schemas that are valid in their dialect: the value of every keyword has the shape that the dialect
asks for, and so have the schemas inside.
-/

namespace ChatHost.Schema

def Dialect.isCount (d : Dialect) (v : Json) : Bool :=
  match v with
  | .num n => d.isOfType v "integer" && (Number.int 0).atMost n
  | _ => false

/-- A list of different texts; the oldest dialect does not let it be empty. -/
def Dialect.areNames (d : Dialect) (v : Json) : Bool :=
  match v with
  | .arr items =>
    (items.all fun i => i.str?.isSome) && allDistinct items && (d ≠ .draft4 || !items.isEmpty)
  | _ => false

def isTypeName (v : Json) : Bool :=
  match v with
  | .str s => typeNames.contains s
  | _ => false

/-- The name of a type, or a list of different ones. -/
def areTypes (v : Json) : Bool :=
  match v with
  | .arr items => !items.isEmpty && items.all isTypeName && allDistinct items
  | v => isTypeName v

def isPattern (s : String) : Bool :=
  (Regex.parse? s.toList).isSome

def isTextOf (pattern : String) (v : Json) : Bool :=
  match v with
  | .str s => Regex.found pattern.toList s.toList
  | _ => false

def Dialect.fits (d : Dialect) (shape : Shape) (v : Json) : Bool :=
  match shape, v with
  | .string, .str _ => true
  | .boolean, .bool _ => true
  | .number, .num _ => true
  | .positive, .num n => (Number.int 0).less n
  | .count, v => d.isCount v
  | .types, v => areTypes v
  | .enumeration, .arr items => d ≠ .draft4 || (!items.isEmpty && allDistinct items)
  | .list, .arr _ => true
  | .names, v => d.areNames v
  | .pattern, .str s => isPattern s
  | .anchorName, v => isTextOf "^[A-Za-z_][-A-Za-z0-9._]*$" v
  | .identifier, v => isTextOf "^[^#]*#?$" v
  | .vocabulary, .obj ms => ms.all fun m => match m.2 with
    | .bool _ => true
    | _ => false
  | .namesMap, .obj ms => ms.all fun m => d.areNames m.2
  | .anything, _ => true
  | _, _ => false

/-- Whether the members of a schema come with those that they need: in the oldest dialect a bound is
only strict where there is a bound. -/
def Dialect.isComplete (d : Dialect) (ms : List (String × Json)) : Bool :=
  d ≠ .draft4 ||
    [("exclusiveMaximum", "maximum"), ("exclusiveMinimum", "minimum")].all fun (k, needed) =>
      !OrderedMap.has ms k || OrderedMap.has ms needed

mutual

def wellFormed (d : Dialect) : Json → Bool
  | .bool _ => d ≠ .draft4
  | .obj ms => d.isComplete ms && wellFormedMembers d ms
  | _ => false

/-- Whether the members of a schema have the shapes that the dialect asks for. -/
def wellFormedMembers (d : Dialect) : List (String × Json) → Bool
  | [] => true
  | (k, v) :: rest =>
    (match d.shape k, v with
      | .schema, v => wellFormed d v
      | .schemas, .arr items => !items.isEmpty && wellFormedItems d items
      | .schemas, _ => false
      | .schemaOrSchemas, .arr items => !items.isEmpty && wellFormedItems d items
      | .schemaOrSchemas, v => wellFormed d v
      | .schemaOrBoolean, .bool _ => true
      | .schemaOrBoolean, v => wellFormed d v
      | .schemaMap, .obj ms => wellFormedValues d ms
      | .schemaMap, _ => false
      | .patternMap, .obj ms =>
        (d == .draft4 || ms.all fun m => isPattern m.1) && wellFormedValues d ms
      | .patternMap, _ => false
      | .dependencyMap, .obj ms => wellFormedDependencies d ms
      | .dependencyMap, _ => false
      | shape, v => d.fits shape v) && wellFormedMembers d rest

def wellFormedItems (d : Dialect) : List Json → Bool
  | [] => true
  | x :: xs => wellFormed d x && wellFormedItems d xs

def wellFormedValues (d : Dialect) : List (String × Json) → Bool
  | [] => true
  | (_, v) :: rest => wellFormed d v && wellFormedValues d rest

def wellFormedDependencies (d : Dialect) : List (String × Json) → Bool
  | [] => true
  | (_, v) :: rest =>
    (match v with
      | .arr items => d.areNames (.arr items)
      | v => wellFormed d v) && wellFormedDependencies d rest

end

end ChatHost.Schema
