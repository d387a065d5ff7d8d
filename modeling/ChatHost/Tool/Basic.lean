import ChatHost.Fault
import ChatHost.Json.Display

/-!
Tools at remote endpoints, and the answers that come back from them. What a remote side sends is a
value with attributes: the members of an object are its attributes, any other value has none.
-/

namespace ChatHost

/-- A tool, and the endpoint that serves it. -/
structure Tool where
  name : String
  endpoint : Text.Letters
  description : Json := .null
  inputSchema : List (String × Json) := []
  reachable : Bool := true

/-- The tools of a session by their names, in the order in which the names were first offered. -/
abbrev Tools := OrderedMap String Tool

namespace Json

def attribute? (v : Json) (name : String) : Option Json :=
  v.member? name

/-- Whether a remote value counts as true; one with attributes always does. -/
def isTruthyRemote : Json → Bool
  | .obj _ => true
  | v => v.isTruthy

def kindWord : Json → String
  | .null => "NoneType"
  | .bool _ => "bool"
  | .num (.int _) => "int"
  | .num (.real _) => "float"
  | .str _ => "str"
  | .arr _ => "list"
  | .obj _ => "types.SimpleNamespace"

end Json

namespace Tool

def toPromptJson (t : Tool) : Json :=
  .obj ([("name", .str t.name)] ++
    (if t.description.isTruthy then [("description", t.description)] else []) ++
    [("inputSchema", .obj t.inputSchema)])

/-- The tool that an endpoint offers with a remote value; it has to have a name. -/
def ofOffer (endpoint : Text.Letters) (offer : Json) : Except Fault Tool :=
  match offer.attribute? "name" with
  | none => .error (.outside .attribute "'Tool' object has no attribute 'name'")
  | some name => .ok {
      name := name.toText
      endpoint := endpoint
      description := (offer.attribute? "description").getD .null
      inputSchema := match offer.attribute? "inputSchema" with
        | some (.obj members) => members
        | _ => [] }

end Tool

def Tools.anyReachable (tools : Tools) : Bool :=
  tools.any fun entry => entry.2.reachable

end ChatHost
