import ChatHost.Json.Basic
import ChatHost.Url.Basic

/-!
The versions of JSON Schema, and what each asks of the values of its keywords.
-/

namespace ChatHost.Schema

/-- A version of JSON Schema. -/
inductive Dialect where
  | draft4
  | draft7
  | draft2020
  deriving DecidableEq, Repr

/-- The dialect that an identifier names; an empty fragment at its end does not count. -/
def Dialect.ofId? (id : String) : Option Dialect :=
  match Url.split id.toList with
  | .error _ => none
  | .ok parts =>
    match String.ofList parts.unsplit with
    | "http://json-schema.org/draft-04/schema" => some .draft4
    | "http://json-schema.org/draft-07/schema" => some .draft7
    | "https://json-schema.org/draft/2020-12/schema" => some .draft2020
    | _ => none

/-- The dialect of a schema, the latest when it names none that is known. -/
def Dialect.of (schema : Json) : Dialect :=
  match schema.member? "$schema" with
  | some (.str id) => (Dialect.ofId? id).getD .draft2020
  | _ => .draft2020

def typeNames : List String :=
  ["array", "boolean", "integer", "null", "number", "object", "string"]

/-- Whether a value is of a type. The oldest dialect does not take doubles for integers. -/
def Dialect.isOfType (d : Dialect) (v : Json) (type : String) : Bool :=
  match v, type with
  | .arr _, "array" => true
  | .bool _, "boolean" => true
  | .num (.int _), "integer" => true
  | .num n, "integer" => d ≠ .draft4 && n.isWhole
  | .null, "null" => true
  | .num _, "number" => true
  | .obj _, "object" => true
  | .str _, "string" => true
  | _, _ => false

/-- What a dialect asks of the value of a keyword. -/
inductive Shape where
  | anything
  | string
  | boolean
  | number
  | positive
  | count
  | types
  | enumeration
  | list
  | names
  | pattern
  | anchorName
  | identifier
  | vocabulary
  | schema
  | schemas
  | schemaOrSchemas
  | schemaOrBoolean
  | schemaMap
  | patternMap
  | namesMap
  | dependencyMap
  deriving DecidableEq, Repr

def commonShape (keyword : String) : Shape :=
  match keyword with
  | "$schema" | "title" | "description" | "format" => .string
  | "multipleOf" => .positive
  | "maximum" | "minimum" => .number
  | "maxLength" | "minLength" | "maxItems" | "minItems" => .count
  | "maxProperties" | "minProperties" => .count
  | "uniqueItems" => .boolean
  | "pattern" => .pattern
  | "required" => .names
  | "type" => .types
  | "enum" => .enumeration
  | "properties" | "definitions" => .schemaMap
  | "patternProperties" => .patternMap
  | "dependencies" => .dependencyMap
  | "allOf" | "anyOf" | "oneOf" => .schemas
  | "not" => .schema
  | _ => .anything

def draft7Shape (keyword : String) : Shape :=
  match keyword with
  | "$id" | "$ref" | "$comment" | "contentMediaType" | "contentEncoding" => .string
  | "exclusiveMaximum" | "exclusiveMinimum" => .number
  | "readOnly" | "writeOnly" => .boolean
  | "examples" => .list
  | "items" => .schemaOrSchemas
  | "additionalItems" | "additionalProperties" | "contains" | "propertyNames" | "if" | "then"
  | "else" => .schema
  | k => commonShape k

def Dialect.shape (d : Dialect) (keyword : String) : Shape :=
  match d with
  | .draft4 =>
    match keyword with
    | "id" => .string
    | "exclusiveMaximum" | "exclusiveMinimum" => .boolean
    | "items" => .schemaOrSchemas
    | "additionalItems" | "additionalProperties" => .schemaOrBoolean
    | k => commonShape k
  | .draft7 => draft7Shape keyword
  | .draft2020 =>
    match keyword with
    | "$id" => .identifier
    | "$dynamicRef" | "$recursiveRef" => .string
    | "$anchor" | "$dynamicAnchor" | "$recursiveAnchor" => .anchorName
    | "$vocabulary" => .vocabulary
    | "deprecated" => .boolean
    | "minContains" | "maxContains" => .count
    | "items" | "unevaluatedItems" | "unevaluatedProperties" | "contentSchema" => .schema
    | "prefixItems" => .schemas
    | "$defs" | "dependentSchemas" => .schemaMap
    | "dependentRequired" => .namesMap
    | "additionalItems" => .anything
    | k => draft7Shape k

end ChatHost.Schema
