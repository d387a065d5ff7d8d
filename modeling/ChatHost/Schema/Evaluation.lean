import ChatHost.Schema.Keyword
import ChatHost.Schema.WellFormed

/-!
Checking a value against a schema: every keyword of the schema is checked in the order in which it
stands there.
-/

namespace ChatHost.Schema

/-- What is looked at by the schema that a condition chooses. -/
def seenByIf {α : Type} (check : Json → Json → Findings) (subject : Json)
    (ms : List (String × Json)) (seen : Json → Except Fault (List α)) : Except Fault (List α) :=
  match OrderedMap.get? ms "if" with
  | none => .ok []
  | some condition => do
    if ← (check condition subject).isClean then
      let first ← seen condition
      match OrderedMap.get? ms "then" with
      | some schema => return first ++ (← seen schema)
      | none => return first
    else
      match OrderedMap.get? ms "else" with
      | some schema => seen schema
      | none => return []

/-- What is looked at by the schemas of a combination that hold. -/
def seenByCombination {α : Type} (check : Json → Json → Findings) (subject : Json)
    (ms : List (String × Json)) (seen : Json → Except Fault (List α)) : Except Fault (List α) :=
  ["allOf", "oneOf", "anyOf"].foldlM (fun acc k => do
    match OrderedMap.get? ms k with
    | some (.arr schemas) =>
      schemas.foldlM (fun acc schema => do
        if ← (check schema subject).isClean then return acc ++ (← seen schema) else return acc) acc
    | _ => return acc) []

/-- The indexes of items that a schema has looked at; `check` decides whether a schema holds. -/
def seenItems (document : Json) (check : Json → Json → Findings) (subject : Json)
    (items : List Json) : Nat → Json → Except Fault (List Nat)
  | 0, _ => .error .endlessReference
  | fuel + 1, .obj ms => do
    let seen := seenItems document check subject items fuel
    let referred ← match OrderedMap.get? ms "$ref" with
      | some (.str r) => do seen (← resolve .draft2020 document r)
      | _ => pure []
    if OrderedMap.has ms "items" then return List.range items.length
    let front := match OrderedMap.get? ms "prefixItems" with
      | some (.arr schemas) => List.range schemas.length
      | _ => []
    let chosen ← seenByIf check subject ms seen
    let contained ← ["contains", "unevaluatedItems"].foldlM (fun acc k => do
      match OrderedMap.get? ms k with
      | none => return acc
      | some schema => do
        let hits ← items.zipIdx.filterM fun (item, _) => (check schema item).isClean
        return acc ++ hits.map Prod.snd) []
    let combined ← seenByCombination check subject ms seen
    return referred ++ front ++ chosen ++ contained ++ combined
  | _ + 1, _ => .ok []

def seenMembers (document : Json) (check : Json → Json → Findings)
    (members : List (String × Json)) : Nat → Json → Except Fault (List String)
  | 0, _ => .error .endlessReference
  | fuel + 1, .obj ms => do
    let subject := Json.obj members
    let seen := seenMembers document check members fuel
    let referred ← match OrderedMap.get? ms "$ref" with
      | some (.str r) => do seen (← resolve .draft2020 document r)
      | _ => pure []
    let named := match OrderedMap.get? ms "properties" with
      | some (.obj properties) => (OrderedMap.keys properties).filter (OrderedMap.has members ·)
      | _ => []
    let others ← ["additionalProperties", "unevaluatedProperties"].foldlM (fun acc k => do
      match OrderedMap.get? ms k with
      | none => return acc
      | some schema => do
        let hits ← members.filterM fun (_, v) => (check schema v).isClean
        return acc ++ OrderedMap.keys hits) []
    let matching := (OrderedMap.keys members).filter fun k =>
      (patternsOf ms).any fun p => Regex.found p.toList k.toList
    let dependent ← match OrderedMap.get? ms "dependentSchemas" with
      | some (.obj schemas) =>
        schemas.foldlM (fun acc (k, schema) => do
          if OrderedMap.has members k then return acc ++ (← seen schema) else return acc) []
      | _ => pure []
    let combined ← seenByCombination check subject ms seen
    let chosen ← seenByIf check subject ms seen
    return referred ++ named ++ others ++ matching ++ dependent ++ combined ++ chosen
  | _ + 1, _ => .ok []

/-- The bound on how far references are followed. -/
def depthLimit : Nat :=
  2000

def unevaluatedItemsKeyword (s : Site) : Findings :=
  match s.subject with
  | .arr items =>
    let seenHere := seenItems s.document s.check s.subject items depthLimit (.obj s.members)
    .afterwards seenHere fun seen =>
      let rest := (items.zipIdx.filter fun (_, i) => !seen.contains i).map Prod.fst
      s.violateIf (!rest.isEmpty) fun _ =>
        s!"Unevaluated items are not allowed {unexpected rest.length (listed rest)}"
  | _ => .clean

/-- A schema for members that no other keyword has looked at. -/
def unevaluatedPropertiesKeyword (s : Site) : Findings :=
  match s.subject with
  | .obj ms =>
    .afterwards (seenMembers s.document s.check ms depthLimit (.obj s.members)) fun seen =>
      let rest := ms.filter fun (k, _) => !seen.contains k
      let found := Findings.forEach rest fun (k, v) => s.checkAt (.key k) s.argument v
      match found.fault with
      | some e => .ofFault e
      | none =>
        let names := rest.flatMap fun (k, v) => (s.check s.argument v).violations.map fun _ => k
        match s.argument with
        | .bool false =>
          s.violateIf (!names.isEmpty) fun _ =>
            s!"Unevaluated properties are not allowed " ++
              unexpected names.length (listedTexts (sortedTexts names))
        | _ =>
          s.violateIf (!names.isEmpty) fun _ =>
            s!"Unevaluated properties are not valid under the given schema " ++
              unexpected names.length (listedTexts names)
  | _ => .clean

def commonKeyword (s : Site) : Findings :=
  match s.keyword, s.subject with
  | "type", _ => typeKeyword s
  | "required", _ => requiredKeyword s
  | "properties", _ => propertiesKeyword s
  | "patternProperties", _ => patternPropertiesKeyword s
  | "additionalProperties", _ => additionalPropertiesKeyword s
  | "allOf", _ => allOfKeyword s
  | "anyOf", _ => anyOfKeyword s
  | "oneOf", _ => oneOfKeyword s
  | "not", _ => notKeyword s
  | "enum", _ => enumKeyword s
  | "multipleOf", _ => multipleOfKeyword s
  | "pattern", _ => patternKeyword s
  | "uniqueItems", _ => uniqueItemsKeyword s
  | "$ref", _ => referenceKeyword s
  | "minLength", .str t => lowerLength s t.length "is too short"
  | "maxLength", .str t => upperLength s t.length "is too long"
  | "minItems", .arr items => lowerLength s items.length "is too short"
  | "maxItems", .arr items => upperLength s items.length "is too long"
  | "minProperties", .obj ms => lowerLength s ms.length "does not have enough properties"
  | "maxProperties", .obj ms => upperLength s ms.length "has too many properties"
  | _, _ => .clean

/-- The check of one keyword that the dialects after the oldest share. -/
def laterKeyword (s : Site) : Findings :=
  match s.keyword with
  | "minimum" => compareKeyword s Number.less "less than the minimum"
  | "maximum" => compareKeyword s (fun n m => m.less n) "greater than the maximum"
  | "exclusiveMinimum" => compareKeyword s Number.atMost "less than or equal to the minimum"
  | "exclusiveMaximum" =>
    compareKeyword s (fun n m => m.atMost n) "greater than or equal to the maximum"
  | "const" => constKeyword s
  | "propertyNames" => propertyNamesKeyword s
  | "if" => ifKeyword s
  | _ => commonKeyword s

def keywordFindings (s : Site) : Findings :=
  match s.dialect, s.keyword with
  | .draft4, "minimum" =>
    boundWithSibling s "exclusiveMinimum" Number.atMost Number.less
      "less than or equal to the minimum" "less than the minimum"
  | .draft4, "maximum" =>
    boundWithSibling s "exclusiveMaximum" (fun n m => m.atMost n) (fun n m => m.less n)
      "greater than or equal to the maximum" "greater than the maximum"
  | .draft4, "items" => itemsOrTupleKeyword s
  | .draft4, "additionalItems" => additionalItemsKeyword s
  | .draft4, "dependencies" => dependencyKeyword s
  | .draft4, _ => commonKeyword s
  | .draft7, "items" => itemsOrTupleKeyword s
  | .draft7, "additionalItems" => additionalItemsKeyword s
  | .draft7, "contains" => containsAnyKeyword s
  | .draft7, "dependencies" => dependencyKeyword s
  | .draft7, _ => laterKeyword s
  | .draft2020, "items" => itemsKeyword s
  | .draft2020, "prefixItems" => prefixItemsKeyword s
  | .draft2020, "contains" => containsKeyword s
  | .draft2020, "dependentRequired" => dependencyKeyword s
  | .draft2020, "dependentSchemas" => dependencyKeyword s
  | .draft2020, "unevaluatedItems" => unevaluatedItemsKeyword s
  | .draft2020, "unevaluatedProperties" => unevaluatedPropertiesKeyword s
  | .draft2020, "$dynamicRef" => referenceKeyword s
  | .draft2020, _ => laterKeyword s

/-- The members of a schema that count: in older dialects a reference hides all others. -/
def countingMembers (d : Dialect) (ms : List (String × Json)) : List (String × Json) :=
  match d, OrderedMap.get? ms "$ref" with
  | .draft2020, _ => ms
  | _, some r => if r.isNull then ms else [("$ref", r)]
  | _, none => ms

/-- What checking a value against a schema finds. The first argument bounds how far schemas lead to
one another. -/
def evaluate (document : Json) (d : Dialect) : Nat → Json → Json → Findings
  | 0, _, _ => .ofFault .endlessReference
  | fuel + 1, schema, subject =>
    match schema with
    | .bool false => ⟨[⟨[], s!"False schema does not allow {subject.shown}", "", false, []⟩], none⟩
    | .obj ms =>
      .forEach (countingMembers d ms) fun (keyword, argument) =>
        keywordFindings
          ⟨document, d, ms, keyword, argument, subject, evaluate document d fuel⟩
    | _ => .clean

/-- A validator of three dialects. What is wrong with a schema that is not well formed in its
dialect is left open. -/
def validator : Validator where
  flaw? schema := .ok (if wellFormed (Dialect.of schema) schema then none else some "...")
  mismatch? schema value :=
    let found := evaluate schema (Dialect.of schema) depthLimit schema value
    match found.fault with
    | some f => .error f
    | none => .ok (report? found.violations)

end ChatHost.Schema
