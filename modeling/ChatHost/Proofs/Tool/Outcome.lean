import ChatHost.Proofs.Json.Overlong
import ChatHost.Proofs.Tool.Call

set_option autoImplicit false

/-!
What becomes of a text of the model. Most that can go wrong with a call is told to the model. What
is not, and breaks off instead, is a whole number with too many digits in the text, a schema that
cannot be applied, and an answer of a tool whose content is not empty and has no items.
-/

namespace ChatHost.Tool

/-- Whether a text holds a function call: JSON between braces, with a name and arguments. -/
def Holds (text : String) (call : FunctionCall) : Prop :=
  ∃ candidate v, candidate? text.toList = some candidate ∧ Json.parseChars candidate = .ok v ∧
    FunctionCall.ofJson? v = some call

/-- Whether what stands between the braces of a text cannot be read for a number with that many
digits. -/
def Unreadable (text : String) (count : Nat) : Prop :=
  ∃ candidate, candidate? text.toList = some candidate ∧
    Json.parseChars candidate = .error (.tooManyDigits count)

theorem Holds.unique {text : String} {call call' : FunctionCall} (h : Holds text call)
    (h' : Holds text call') : call' = call := by
  obtain ⟨candidate, v, hcandidate, hparse, hcall⟩ := h
  obtain ⟨candidate', v', hcandidate', hparse', hcall'⟩ := h'
  cases hcandidate.symm.trans hcandidate'
  cases hparse.symm.trans hparse'
  exact Option.some.inj (hcall'.symm.trans hcall)

theorem Unreadable.unique {text : String} {count count' : Nat} (h : Unreadable text count)
    (h' : Unreadable text count') : count' = count := by
  obtain ⟨candidate, hcandidate, hparse⟩ := h
  obtain ⟨candidate', hcandidate', hparse'⟩ := h'
  cases hcandidate.symm.trans hcandidate'
  cases hparse.symm.trans hparse'
  rfl

theorem throughLastBrace_front {s upTo : List Char} (h : throughLastBrace? s = some upTo) :
    upTo <+: s := by
  unfold throughLastBrace? at h
  split at h
  · cases h
  · cases h
    rename_i hdrop
    have hsuffix := List.dropWhile_suffix (l := s.reverse) (· ≠ '\x7d')
    rw [← List.reverse_suffix, List.reverse_reverse]
    exact hsuffix

theorem candidate_within {s candidate : List Char} (h : candidate? s = some candidate) :
    candidate <:+: s := by
  unfold candidate? at h
  have hsuffix := List.dropWhile_suffix (l := s) (· ≠ '\x7b')
  split at h
  · cases h
  · cases h
    cases hthrough : throughLastBrace? (s.dropWhile (· ≠ '\x7b')) with
    | none => exact hsuffix.isInfix
    | some upTo => exact (throughLastBrace_front hthrough).isInfix.trans hsuffix.isInfix

theorem Unreadable.overlong {text : String} {count : Nat} (h : Unreadable text count) :
    Json.Overlong text.toList count := by
  obtain ⟨candidate, hcandidate, hparse⟩ := h
  obtain ⟨hlimit, digits, hinfix, hdigits⟩ := Json.overlong_of_parseChars hparse
  exact ⟨hlimit, digits, hinfix.trans (candidate_within hcandidate), hdigits⟩

def Reaches (tools : Tools) (call : FunctionCall) (tool : Tool) : Prop :=
  OrderedMap.get? tools call.name = some tool ∧ tool.reachable = true

/-- The arguments that are checked; what is no object counts as an empty one. -/
def FunctionCall.members (call : FunctionCall) : List (String × Json) :=
  call.arguments.members?.getD []

variable {σ : Type} {judge : Schema.Validator}

def reply (t : Transport σ) (call : FunctionCall) (tool : Tool) (w : σ) : Except Fault Json :=
  ((t.withSession tool.endpoint (t.call tool.endpoint call.name call.arguments.members?)).run
    w).result

/-- Whether an answer says of itself that it is an error. -/
def Complains (answer : Json) : Prop :=
  ∃ v, answer.attribute? "isError" = some v ∧ v.isTruthyRemote = true

/-- A content that is not empty and yet has no items, and the fault of looking for them. -/
def Itemless (content : Json) (f : Fault) : Prop :=
  content.isTruthyRemote = true ∧ (∀ items, content ≠ .arr items) ∧ (∀ s, content ≠ .str s) ∧
    f = .mistyped s!"'{content.kindWord}' object is not iterable"

/-- Whether a validator breaks off at the schema of a tool: at the schema itself, or with some
arguments at one that is itself valid. An empty schema is not shown to it. -/
def Raises (judge : Schema.Validator) (schema arguments : List (String × Json))
    (f : Fault) : Prop :=
  schema ≠ [] ∧ (judge.flaw? (.obj schema) = .error f ∨
    judge.flaw? (.obj schema) = .ok none ∧
      judge.mismatch? (.obj schema) (.obj arguments) = .error f)

inductive Breaks (judge : Schema.Validator) (t : Transport σ) (tools : Tools)
    (call : FunctionCall) (w : σ) : Fault → Prop
  | schema (tool : Tool) (f : Fault) (htool : Reaches tools call tool)
      (hraises : Raises judge tool.inputSchema call.members f) : Breaks judge t tools call w f
  | answer (tool : Tool) (answer content : Json) (f : Fault) (htool : Reaches tools call tool)
      (haccepts : Accepts judge tool.inputSchema call.members)
      (hreply : reply t call tool w = .ok answer)
      (hcalm : ¬Complains answer) (hcontent : answer.attribute? "content" = some content)
      (hitemless : Itemless content f) : Breaks judge t tools call w f

/-- Whether a tool answers a call with an output: the texts of the items of its answer. -/
def Answers (judge : Schema.Validator) (t : Transport σ) (tools : Tools) (call : FunctionCall)
    (w : σ) (output : String) : Prop :=
  ∃ tool answer items, Reaches tools call tool ∧ Accepts judge tool.inputSchema call.members ∧
    reply t call tool w = .ok answer ∧ ¬Complains answer ∧ answerItems answer = .ok items ∧
    output = " ".intercalate (items.filterMap itemText?)

theorem Reaches.unique {tools : Tools} {call : FunctionCall} {tool tool' : Tool}
    (h : Reaches tools call tool) (h' : Reaches tools call tool') : tool' = tool :=
  Option.some.inj (h'.1.symm.trans h.1)

theorem parseCall_reads (candidate : List Char) (w : σ) :
    (parseCall candidate).Ends w fun r v => v = w ∧
      r = match Json.parseChars candidate with
        | .ok v => .ok (FunctionCall.ofJson? v)
        | .error (.tooManyDigits count) => .error (.tooManyDigits count)
        | .error _ => .ok none := by
  unfold parseCall
  cases Json.parseChars candidate with
  | ok v => exact ⟨rfl, rfl⟩
  | error e => cases e <;> exact ⟨rfl, rfl⟩

/-- A text that holds a call leaves the outside world as the call leaves it. -/
theorem processText_calls (judge : Schema.Validator) (t : Transport σ) (tools : Tools)
    {text : String} {call : FunctionCall}
    (h : Holds text call) (w : σ) :
    (processText judge t tools text).Ends w fun r v =>
      v = ((callTool judge t tools call).run w).world ∧
      r = match ((callTool judge t tools call).run w).result with
        | .error (.fault f) => .error f
        | .error (.known e) =>
          .ok (.failed call.name s!"Error calling function '{call.name}': {e.message}")
        | .ok output => .ok (.executed call.name output) := by
  obtain ⟨candidate, v, hcandidate, hparse, hcall⟩ := h
  have hcalled : (callTool judge t tools call).Ends w fun r v =>
      r = ((callTool judge t tools call).run w).result ∧
        v = ((callTool judge t tools call).run w).world :=
    ⟨rfl, rfl⟩
  unfold processText
  refine (Act.ends_bind _ _ _ _).2 ((Act.ends_log _ _ _ _ _).2 ?_)
  rw [hcandidate]
  apply Act.Ends.bind (parseCall_reads candidate w)
  rw [hparse]
  rintro r u ⟨rfl, rfl⟩
  dsimp only
  rw [hcall]
  refine (Act.ends_bind _ _ _ _).2 ((Act.ends_log _ _ _ _ _).2 ?_)
  apply Act.Ends.bind hcalled
  rintro r v ⟨rfl, rfl⟩
  rcases ((callTool judge t tools call).run u).result with (e | f) | output <;> exact ⟨rfl, rfl⟩

theorem processText_held (judge : Schema.Validator) (t : Transport σ) (tools : Tools)
    {text : String} {call : FunctionCall}
    (h : Holds text call) (w : σ) :
    ((processText judge t tools text).run w).result =
      match ((callTool judge t tools call).run w).result with
      | .error (.fault f) => .error f
      | .error (.known e) =>
        .ok (.failed call.name s!"Error calling function '{call.name}': {e.message}")
      | .ok output => .ok (.executed call.name output) :=
  (processText_calls judge t tools h w).2

/-- A text without a call leaves the outside world as it is. -/
theorem processText_unheld (judge : Schema.Validator) (t : Transport σ) (tools : Tools)
    {text : String}
    (h : ∀ call, ¬Holds text call) (w : σ) :
    (processText judge t tools text).Ends w fun r v => v = w ∧
      ((∀ count, ¬Unreadable text count) ∧ r = .ok .noCall ∨
        ∃ count, Unreadable text count ∧ r = .error (.tooManyDigits count)) := by
  unfold processText
  refine (Act.ends_bind _ _ _ _).2 ((Act.ends_log _ _ _ _ _).2 ?_)
  cases hcandidate : candidate? text.toList with
  | none =>
    refine ⟨rfl, .inl ⟨?_, rfl⟩⟩
    rintro count ⟨candidate, hsome, -⟩
    cases hcandidate.symm.trans hsome
  | some candidate =>
    have hreadable (count : Nat) (hunreadable : Unreadable text count) :
        Json.parseChars candidate = .error (.tooManyDigits count) := by
      obtain ⟨candidate', hsome, hparse⟩ := hunreadable
      cases hcandidate.symm.trans hsome
      exact hparse
    apply Act.Ends.bind (parseCall_reads candidate w)
    cases hparse : Json.parseChars candidate with
    | ok value =>
      rintro r v ⟨rfl, rfl⟩
      dsimp only
      cases hcall : FunctionCall.ofJson? value with
      | some call => exact absurd ⟨candidate, value, hcandidate, hparse, hcall⟩ (h call)
      | none =>
        refine ⟨rfl, .inl ⟨fun count hunreadable => ?_, rfl⟩⟩
        cases hparse.symm.trans (hreadable count hunreadable)
    | error e =>
      cases e with
      | tooManyDigits count =>
        rintro r v ⟨rfl, rfl⟩
        exact ⟨rfl, .inr ⟨count, ⟨candidate, hcandidate, hparse⟩, rfl⟩⟩
      | malformed what place =>
        rintro r v ⟨rfl, rfl⟩
        refine ⟨rfl, .inl ⟨fun count hunreadable => ?_, rfl⟩⟩
        cases hparse.symm.trans (hreadable count hunreadable)
      | undecodable fault =>
        rintro r v ⟨rfl, rfl⟩
        refine ⟨rfl, .inl ⟨fun count hunreadable => ?_, rfl⟩⟩
        cases hparse.symm.trans (hreadable count hunreadable)

theorem processText_noCall_iff {t : Transport σ} {tools : Tools} {text : String} {w : σ} :
    ((processText judge t tools text).run w).result = .ok .noCall ↔
      (∀ call, ¬Holds text call) ∧ ∀ count, ¬Unreadable text count := by
  constructor
  · intro h
    have hunheld : ∀ call, ¬Holds text call := by
      intro call hcall
      rw [processText_held judge t tools hcall] at h
      split at h <;> cases h
    obtain ⟨-, ⟨hreadable, -⟩ | ⟨count, -, hresult⟩⟩ := processText_unheld judge t tools hunheld w
    · exact ⟨hunheld, hreadable⟩
    · cases hresult.symm.trans h
  · rintro ⟨hunheld, hreadable⟩
    obtain ⟨-, ⟨-, hresult⟩ | ⟨count, hunreadable, -⟩⟩ := processText_unheld judge t tools hunheld w
    · exact hresult
    · exact absurd hunreadable (hreadable count)

end ChatHost.Tool
