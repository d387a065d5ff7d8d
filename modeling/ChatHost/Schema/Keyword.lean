import ChatHost.Regex.Parser
import ChatHost.Schema.Alike
import ChatHost.Schema.Dialect
import ChatHost.Schema.Reference

/-!
The keywords of JSON Schema. Each checks one value; where it asks for schemas inside, it is given a
way to check a value against one.
-/

namespace ChatHost.Schema

/-- The place of a keyword: the document and the dialect, the schema that it belongs to, the keyword
and its value, the value that is checked, and how to check a value against another schema. -/
structure Site where
  document : Json
  dialect : Dialect
  members : List (String × Json)
  keyword : String
  argument : Json
  subject : Json
  check : Json → Json → Findings

namespace Site

def sibling? (s : Site) (keyword : String) : Option Json :=
  OrderedMap.get? s.members keyword

/-- Whether the checked value is of a type that the schema asks for. -/
def typeMatches (s : Site) : Bool :=
  match s.sibling? "type" with
  | some (.str t) => s.dialect.isOfType s.subject t
  | some (.arr ts) => ts.any fun t => (t.str?.map (s.dialect.isOfType s.subject)).getD false
  | _ => false

def violateChoice (s : Site) (message : String) (context : List Violation) : Findings :=
  ⟨[⟨[], message, s.keyword, s.typeMatches, context⟩], none⟩

def violate (s : Site) (message : String) : Findings :=
  s.violateChoice message []

def violateIf (s : Site) (condition : Bool) (message : Unit → String) : Findings :=
  if condition then s.violate (message ()) else .clean

/-- Checks a value inside of the checked one. The place of a value that no schema allows is not
told. -/
def checkAt (s : Site) (step : Step) (schema value : Json) : Findings :=
  match schema with
  | .bool false => s.check schema value
  | _ => (s.check schema value).below step

/-- Checks items from a given index on, all against one schema. -/
def checkItems (s : Site) (schema : Json) (first : Nat) (items : List Json) : Findings :=
  .forEach (items.zipIdx first) fun (item, i) => s.checkAt (.index i) schema item

def checkTuple (s : Site) (schemas items : List Json) : Findings :=
  .forEach ((items.zip schemas).zipIdx) fun ((item, schema), i) =>
    s.checkAt (.index i) schema item

def shown (s : Site) : String :=
  s.subject.shown

end Site

def listed (vs : List Json) : String :=
  ", ".intercalate (vs.map Json.shown)

def listedTexts (xs : List String) : String :=
  ", ".intercalate (xs.map Text.quoted)

def sortedTexts (xs : List String) : List String :=
  xs.mergeSort fun a b => a ≤ b

/-- The wording that some values should not be there. -/
def unexpected (count : Nat) (values : String) : String :=
  let verb := if count = 1 then "was" else "were"
  s!"({values} {verb} unexpected)"

/-- The value of a number as a number, zero for anything else. -/
def numberIn (v : Json) : Number :=
  match v with
  | .num n => n
  | _ => .int 0

def lengthNumber (n : Nat) : Number :=
  .int n

/-- Whether a whole number of times the second number gives the first. -/
def isMultiple (a b : Number) : Except Fault Bool :=
  match a.value, b.value with
  | .nan, .finite .. =>
    match b with
    | .int _ => .ok false
    | .real _ => .error (.invalid "cannot convert float NaN to integer")
  | .infinite _, .finite .. =>
    match b with
    | .int _ => .ok false
    | .real _ => .error .beyondRatios
  | .finite n d, .finite m e =>
    match a, b with
    | _, .int _ => .ok (n % (d * m) == 0)
    | _, .real y =>
      match a.toReal? with
      | none => .error .beyondReals
      | some x =>
        let quotient := Number.real (x / y)
        match quotient.value with
        | .finite p q => .ok (p % q == 0)
        | _ => .ok ((n * e) % (d * m) == 0)
  | _, _ => .ok false

def compareKeyword (s : Site) (fails : Number → Number → Bool) (wording : String) : Findings :=
  match s.subject, s.argument with
  | .num n, .num m =>
    s.violateIf (fails n m) fun _ => s!"{s.shown} is {wording} of {s.argument.shown}"
  | _, _ => .clean

def lowerLength (s : Site) (length : Nat) (short : String) : Findings :=
  let bound := numberIn s.argument
  let wording := if bound.same (.int 1) then "should be non-empty" else short
  s.violateIf ((lengthNumber length).less bound) fun _ => s!"{s.shown} {wording}"

def upperLength (s : Site) (length : Nat) (long : String) : Findings :=
  let bound := numberIn s.argument
  let wording := if bound.same (.int 0) then "is expected to be empty" else long
  s.violateIf (bound.less (lengthNumber length)) fun _ => s!"{s.shown} {wording}"

def typeKeyword (s : Site) : Findings :=
  let types := match s.argument with
    | .arr ts => ts
    | t => [t]
  s.violateIf (!types.any fun t => (t.str?.map (s.dialect.isOfType s.subject)).getD false) fun _ =>
    s!"{s.shown} is not of type {listed types}"

def requiredKeyword (s : Site) : Findings :=
  match s.subject, s.argument.strings? with
  | .obj ms, some names =>
    .forEach names fun name =>
      s.violateIf (!OrderedMap.has ms name) fun _ => s!"{Text.quoted name} is a required property"
  | _, _ => .clean

def dependentNames (s : Site) (ms : List (String × Json)) (property : String)
    (names : List String) : Findings :=
  .forEach names fun name =>
    s.violateIf (!OrderedMap.has ms name) fun _ =>
      s!"{Text.quoted name} is a dependency of {Text.quoted property}"

/-- Schemas, or names, that a property brings with it. -/
def dependencyKeyword (s : Site) : Findings :=
  match s.subject, s.argument with
  | .obj ms, .obj dependencies =>
    .forEach dependencies fun (property, dependency) =>
      if OrderedMap.has ms property then
        match dependency with
        | .arr names => dependentNames s ms property ((Json.arr names).strings?.getD [])
        | schema => s.check schema s.subject
      else .clean
  | _, _ => .clean

def propertiesKeyword (s : Site) : Findings :=
  match s.subject, s.argument with
  | .obj ms, .obj properties =>
    .forEach properties fun (name, schema) =>
      match OrderedMap.get? ms name with
      | some v => s.checkAt (.key name) schema v
      | none => .clean
  | _, _ => .clean

def patternPropertiesKeyword (s : Site) : Findings :=
  match s.subject, s.argument with
  | .obj ms, .obj patterns =>
    .forEach patterns fun (pattern, schema) =>
      .forEach ms fun (k, v) =>
        if Regex.found pattern.toList k.toList then s.checkAt (.key k) schema v else .clean
  | _, _ => .clean

def patternsOf (members : List (String × Json)) : List String :=
  match OrderedMap.get? members "patternProperties" with
  | some (.obj patterns) => OrderedMap.keys patterns
  | _ => []

/-- The members of a value that a schema names neither by name nor by pattern. -/
def additionalMembers (members ms : List (String × Json)) : List (String × Json) :=
  let named := match OrderedMap.get? members "properties" with
    | some (.obj properties) => OrderedMap.keys properties
    | _ => []
  let pattern := Text.joined ['|'] ((patternsOf members).map String.toList)
  ms.filter fun (k, _) =>
    !named.contains k && !(!pattern.isEmpty && Regex.found pattern k.toList)

def additionalPropertiesKeyword (s : Site) : Findings :=
  match s.subject with
  | .obj ms =>
    let extras := additionalMembers s.members ms
    match s.argument with
    | .obj _ => .forEach extras fun (k, v) => s.checkAt (.key k) s.argument v
    | .bool false =>
      let names := sortedTexts (OrderedMap.keys extras)
      s.violateIf (!extras.isEmpty) fun _ =>
        if (s.sibling? "patternProperties").isSome then
          let verb := if names.length = 1 then "does" else "do"
          s!"{listedTexts names} {verb} not match any of the regexes: " ++
            listedTexts (patternsOf s.members)
        else
          s!"Additional properties are not allowed {unexpected names.length (listedTexts names)}"
    | _ => .clean
  | _ => .clean

def propertyNamesKeyword (s : Site) : Findings :=
  match s.subject with
  | .obj ms => .forEach ms fun (k, _) => s.check s.argument (.str k)
  | _ => .clean

def prefixLength (s : Site) : Nat :=
  match s.sibling? "prefixItems" with
  | some (.arr schemas) => schemas.length
  | _ => 0

def itemsKeyword (s : Site) : Findings :=
  match s.subject with
  | .arr items =>
    let first := prefixLength s
    let rest := items.drop first
    match s.argument, rest with
    | _, [] => .clean
    | .bool false, [item] =>
      s.violate (tooMany first 1 item.shown)
    | .bool false, rest => s.violate (tooMany first rest.length (Json.arr rest).shown)
    | schema, rest => s.checkItems schema first rest
  | _ => .clean
where
  /-- The wording for items beyond those that have schemas. -/
  tooMany (first extra : Nat) (rest : String) : String :=
    let noun := if first = 1 then "item" else "items"
    s!"Expected at most {first} {noun} but found {extra} extra: {rest}"

def prefixItemsKeyword (s : Site) : Findings :=
  match s.subject, s.argument with
  | .arr items, .arr schemas => s.checkTuple schemas items
  | _, _ => .clean

def itemsOrTupleKeyword (s : Site) : Findings :=
  match s.subject, s.argument with
  | .arr items, .arr schemas => s.checkTuple schemas items
  | .arr items, schema => s.checkItems schema 0 items
  | _, _ => .clean

/-- A schema for the items behind those that have one of their own, in older dialects. -/
def additionalItemsKeyword (s : Site) : Findings :=
  match s.subject with
  | .arr items =>
    match s.sibling? "items" with
    | some (.arr schemas) =>
      let rest := items.drop schemas.length
      match s.argument with
      | .obj _ => s.checkItems s.argument schemas.length rest
      | .bool false =>
        s.violateIf (!rest.isEmpty) fun _ =>
          s!"Additional items are not allowed {unexpected rest.length (listed rest)}"
      | _ => .clean
    | _ => .clean
  | _ => .clean

/-- The number of items that satisfy a schema, as far as it matters: counting stops above a bound.
-/
def countMatches (s : Site) (most : Number) : Nat → List Json → Except Fault Nat
  | found, [] => .ok found
  | found, item :: items =>
    match (s.check s.argument item).isClean with
    | .error e => .error e
    | .ok false => countMatches s most found items
    | .ok true =>
      if most.less (lengthNumber (found + 1)) then .ok (found + 1)
      else countMatches s most (found + 1) items

def containsKeyword (s : Site) : Findings :=
  match s.subject with
  | .arr items =>
    let least := (s.sibling? "minContains").map numberIn |>.getD (.int 1)
    let mostGiven := s.sibling? "maxContains"
    let most := mostGiven.map numberIn |>.getD (lengthNumber items.length)
    .afterwards (countMatches s most 0 items) fun found =>
      if most.less (lengthNumber found) then
        let bound := (mostGiven.getD (.ofInt items.length)).shown
        s.violate s!"Too many items match the given schema (expected at most {bound})"
      else if (lengthNumber found).less least then
        if found = 0 then
          s.violate s!"{s.shown} does not contain items matching the given schema"
        else
          let bound := ((s.sibling? "minContains").getD (.ofInt 1)).shown
          s.violate (s!"Too few items match the given schema (expected at least {bound} " ++
            s!"but only {found} matched)")
      else .clean
  | _ => .clean

/-- A schema that some item has to satisfy, in older dialects. -/
def containsAnyKeyword (s : Site) : Findings :=
  match s.subject with
  | .arr items =>
    .afterwards (countMatches s (.int 0) 0 items) fun found =>
      s.violateIf (found == 0) fun _ => s!"None of {s.shown} are valid under the given schema"
  | _ => .clean

def allOfKeyword (s : Site) : Findings :=
  match s.argument with
  | .arr schemas => .forEach schemas fun schema => s.check schema s.subject
  | _ => .clean

/-- The first schema that holds and those behind it, or the violations of all. -/
def firstHolding (s : Site) (context : List Violation) :
    List Json → Except Fault (Except (List Violation) (Json × List Json))
  | [] => .ok (.error context)
  | schema :: schemas =>
    let found := s.check schema s.subject
    match found.fault, found.violations with
    | some e, _ => .error e
    | none, [] => .ok (.ok (schema, schemas))
    | none, vs => firstHolding s (context ++ vs) schemas

def noneHolds (s : Site) : String :=
  s!"{s.shown} is not valid under any of the given schemas"

def anyOfKeyword (s : Site) : Findings :=
  match s.argument with
  | .arr schemas =>
    .afterwards (firstHolding s [] schemas) fun
      | .ok _ => .clean
      | .error context => s.violateChoice (noneHolds s) context
  | _ => .clean

def holding (s : Site) : List Json → Except Fault (List Json)
  | [] => .ok []
  | schema :: schemas => do
    let holds ← (s.check schema s.subject).isClean
    let rest ← holding s schemas
    return if holds then schema :: rest else rest

def oneOfKeyword (s : Site) : Findings :=
  match s.argument with
  | .arr schemas =>
    .afterwards (firstHolding s [] schemas) fun
      | .error context => s.violateChoice (noneHolds s) context
      | .ok (first, rest) =>
        .afterwards (holding s rest) fun others =>
          s.violateIf (!others.isEmpty) fun _ =>
            s!"{s.shown} is valid under each of {listed (others ++ [first])}"
  | _ => .clean

def notKeyword (s : Site) : Findings :=
  .afterwards (s.check s.argument s.subject).isClean fun holds =>
    s.violateIf holds fun _ => s!"{s.shown} should not be valid under {s.argument.shown}"

/-- A schema that decides which of two others has to hold. -/
def ifKeyword (s : Site) : Findings :=
  .afterwards (s.check s.argument s.subject).isClean fun holds =>
    match s.sibling? (if holds then "then" else "else") with
    | some schema => s.check schema s.subject
    | none => .clean

def referenceKeyword (s : Site) : Findings :=
  match s.argument with
  | .str reference =>
    .afterwards (resolve s.dialect s.document reference) fun schema => s.check schema s.subject
  | _ => .clean

def enumKeyword (s : Site) : Findings :=
  match s.argument with
  | .arr values =>
    s.violateIf (!values.any fun v => alike v s.subject) fun _ =>
      s!"{s.shown} is not one of {s.argument.shown}"
  | _ => .clean

def constKeyword (s : Site) : Findings :=
  s.violateIf (!alike s.subject s.argument) fun _ => s!"{s.argument.shown} was expected"

def multipleOfKeyword (s : Site) : Findings :=
  match s.subject, s.argument with
  | .num n, .num m =>
    .afterwards (isMultiple n m) fun multiple =>
      s.violateIf (!multiple) fun _ => s!"{s.shown} is not a multiple of {s.argument.shown}"
  | _, _ => .clean

def patternKeyword (s : Site) : Findings :=
  match s.subject, s.argument with
  | .str text, .str pattern =>
    s.violateIf (!Regex.found pattern.toList text.toList) fun _ =>
      s!"{s.shown} does not match {s.argument.shown}"
  | _, _ => .clean

def uniqueItemsKeyword (s : Site) : Findings :=
  match s.subject with
  | .arr items =>
    s.violateIf (s.argument.isTruthy && !allDistinct items) fun _ =>
      s!"{s.shown} has non-unique elements"
  | _ => .clean

/-- A bound of the oldest dialect, which a sibling makes strict. -/
def boundWithSibling (s : Site) (sibling : String) (strict loose : Number → Number → Bool)
    (strictWording looseWording : String) : Findings :=
  if ((s.sibling? sibling).map Json.isTruthy).getD false then compareKeyword s strict strictWording
  else compareKeyword s loose looseWording

end ChatHost.Schema
