import ChatHost.Proofs.Json.RoundTrip
import ChatHost.Proofs.Noted
import ChatHost.Proofs.Tool.Discovery
import ChatHost.Schema.Evaluation

set_option autoImplicit false

/-!
A function call in the text of a model reaches the tool that a search has found: one session at the
endpoint that serves the name, and in it one call with the arguments as they were written.
-/

namespace ChatHost.Tool

/-! The call in the text. -/

theorem dropWhile_ne {x : Char} {p : List Char} (hp : x ∉ p) (cs : List Char) :
    (p ++ x :: cs).dropWhile (· ≠ x) = x :: cs := by
  rw [List.dropWhile_append_of_pos]
  · exact List.dropWhile_cons_of_neg (by simp)
  · intro c hc
    simpa using fun h : c = x => hp (h ▸ hc)

theorem throughLastBrace_append (body : List Char) {s : List Char} (hs : '\x7d' ∉ s) :
    throughLastBrace? (body ++ '\x7d' :: s) = some (body ++ ['\x7d']) := by
  have hreverse : (body ++ '\x7d' :: s).reverse = s.reverse ++ '\x7d' :: body.reverse := by simp
  rw [throughLastBrace?, hreverse, dropWhile_ne (by simpa using hs)]
  simp

/-- A text that stands between braces is found where the text before it opens none and the text
behind it closes none. -/
theorem candidate_between {p s : List Char} (body : List Char) (hp : '\x7b' ∉ p) (hs : '\x7d' ∉ s) :
    candidate? (p ++ '\x7b' :: (body ++ '\x7d' :: s)) = some ('\x7b' :: (body ++ ['\x7d'])) := by
  rw [candidate?, dropWhile_ne hp]
  dsimp only
  rw [← List.cons_append, throughLastBrace_append _ hs]
  rfl

def FunctionCall.toJson (call : FunctionCall) : Json :=
  .obj [("name", .str call.name), ("arguments", call.arguments)]

variable {σ ε : Type} {judge : Schema.Validator}

/-- Whether arguments pass the check against the schema of a tool. -/
def Accepts (judge : Schema.Validator) (schema arguments : List (String × Json)) : Prop :=
  ((checkArguments judge (.obj schema) (.obj arguments)).run ()).result.isOk

end ChatHost.Tool
