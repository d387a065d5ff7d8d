import ChatHost.Json.Access
import ChatHost.Proofs.Tool.Noted
import Mathlib.Data.List.TakeWhile

set_option autoImplicit false

/-!
What a text of the model leads to, said of the text, the tools and the way to them. A text without
a call, and a call that is not admitted, open no session. An admitted call opens one at the endpoint
of its tool, is made in it once, and the session is closed whatever came of the call.
-/

namespace ChatHost.Tool

/-! Which call a text carries. -/

/-- What stands in a text from its first opening brace through its last closing brace, or to its end
where none follows. -/
inductive Braced : List Char → List Char → Prop
  | closed {before body after : List Char} (hbefore : '\x7b' ∉ before) (hafter : '\x7d' ∉ after) :
    Braced (before ++ '\x7b' :: (body ++ '\x7d' :: after)) ('\x7b' :: (body ++ ['\x7d']))
  | unclosed {before rest : List Char} (hbefore : '\x7b' ∉ before) (hrest : '\x7d' ∉ rest) :
    Braced (before ++ '\x7b' :: rest) ('\x7b' :: rest)

theorem throughLastBrace_none {s : List Char} (h : '\x7d' ∉ s) : throughLastBrace? s = none := by
  have hdrop : s.reverse.dropWhile (· ≠ '\x7d') = [] := by
    rw [List.dropWhile_eq_nil_iff]
    intro c hc
    simpa using fun hbrace : c = '\x7d' => h (hbrace ▸ List.mem_reverse.1 hc)
  rw [throughLastBrace?, hdrop]

theorem Braced.candidate {s c : List Char} (h : Braced s c) : candidate? s = some c := by
  cases h with
  | closed hbefore hafter => exact candidate_between _ hbefore hafter
  | @unclosed before rest hbefore hrest =>
    have hwhole : '\x7d' ∉ '\x7b' :: rest := by simpa using hrest
    rw [candidate?, dropWhile_ne hbefore]
    dsimp only
    rw [throughLastBrace_none hwhole]
    rfl

variable {judge : Schema.Validator}

variable {σ : Type}

def opening (t : Transport σ) (tool : Tool) (w : σ) : Outcome σ (Except Fault Unit) :=
  (t.connect tool.endpoint).run w

/-- The one call in that session, with the name and the arguments as they were written; what is no
object is left out. -/
def calling (t : Transport σ) (tool : Tool) (call : FunctionCall) (w : σ) :
    Outcome σ (Except Fault Json) :=
  (t.call tool.endpoint call.name call.arguments.members?).run (opening t tool w).world

def closing (t : Transport σ) (tool : Tool) (call : FunctionCall) (w : σ) :
    Outcome σ (Except Fault Unit) :=
  (t.close tool.endpoint).run (calling t tool call w).world

end ChatHost.Tool
