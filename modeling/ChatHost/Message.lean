import ChatHost.Fault
import ChatHost.Json.Display
import ChatHost.Text.Case

/-!
Messages of a conversation, and who speaks in them.
-/

namespace ChatHost

inductive Role where
  | system
  | user
  | assistant
  | tool
  deriving DecidableEq, Repr

namespace Role

def name : Role → String
  | .system => "system"
  | .user => "user"
  | .assistant => "assistant"
  | .tool => "tool"

def all : List Role :=
  [.system, .user, .assistant, .tool]

def ofName? (s : String) : Option Role :=
  all.find? fun r => r.name = s

def unknown (s : String) : Fault :=
  .invalid s!"{Text.quoted s} is not a valid Role"

def ofName (s : String) : Except Fault Role :=
  match ofName? s with
  | some r => .ok r
  | none => .error (unknown s)

end Role

/-- One entry of a conversation. What a model or a tool contributes to it comes as characters. -/
structure Message (τ : Type := Text.Letters) where
  role : Role
  content : τ
  deriving DecidableEq, Repr

namespace Message

def toJson (m : Message) : Json Text.Letters :=
  .obj [("role", .str m.role.name), ("content", .str m.content)]

def entry (m : Message String) : Message :=
  ⟨m.role, m.content⟩

/-- The message that the members of an object describe. The role may be written in any case; the
content has to be a string. -/
def ofMembers (members : List (String × Json)) : Except Fault (Message String) := do
  let role := ((OrderedMap.get? members "role").getD (.str "")).toText
  let role ← Role.ofName (Text.lower role)
  match OrderedMap.get? members "content" with
  | some (.str content) => return ⟨role, content⟩
  | _ => .error (.invalid "message content must be a string")

end Message

end ChatHost
