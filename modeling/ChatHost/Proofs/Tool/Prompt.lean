import ChatHost.Proofs.Json.Regular
import ChatHost.Proofs.Text.Template
import ChatHost.Tool.Prompt

set_option autoImplicit false

/-!
The prompt of a session with tools. It tells all there is to tell of them: the list of functions in
it is JSON text that is read back as the summaries of the tools, whatever their names, descriptions
and schemas say and whatever the caller's instructions are. There is no prompt when a number in a
schema has more digits than are written. How deep schemas nest is not bounded here.
-/

namespace ChatHost

open Text (Letters)

/-- Whether the description of a tool is a text, if there is one, and its schema an object without
two members of one key, as are all objects in it. -/
structure Tool.Described (t : Tool) : Prop where
  description : t.description = .null ∨ ∃ s, t.description = .str s
  schema : (Json.obj t.inputSchema).IsKeyed

/-- Whether no number in the schemas of tools has more digits than are written. -/
def Tools.Written (tools : Tools) : Prop :=
  ∀ entry ∈ tools, (Json.obj entry.2.inputSchema).isWritable = true

namespace Prompt

/-- What a prompt tells of a tool. -/
structure Summary where
  name : String
  /-- The description, unless it is empty. -/
  description : Option String
  inputSchema : List (String × Json)

namespace Summary

def of (t : Tool) : Summary where
  name := t.name
  description := t.description.str?.filter fun s => s ≠ ""
  inputSchema := t.inputSchema

def toJson (s : Summary) : Json :=
  .obj (("name", .str s.name) :: (s.description.map fun d => ("description", .str d)).toList ++
    [("inputSchema", .obj s.inputSchema)])

theorem toJson_injective {s s' : Summary} (h : s.toJson = s'.toJson) : s = s' := by
  obtain ⟨name, description, schema⟩ := s
  obtain ⟨name', description', schema'⟩ := s'
  cases description <;> cases description' <;> simp [toJson] at h ⊢ <;> exact h

/-- The JSON value of a tool is that of its summary. -/
theorem toJson_of {t : Tool} (h : t.Described) : (of t).toJson = t.toPromptJson := by
  unfold toJson of Tool.toPromptJson
  rcases h.description with hnull | ⟨s, hs⟩
  · rw [hnull]
    rfl
  · rw [hs]
    by_cases hempty : s = ""
    · subst hempty
      rfl
    · simp [Json.isTruthy, Json.str?, Option.filter, hempty]

theorem isRegular_toJson {s : Summary} (h : (Json.obj s.inputSchema).IsRegular) :
    s.toJson.IsRegular := by
  obtain ⟨name, description, schema⟩ := s
  cases description with
  | none => exact ⟨by simp [OrderedMap.keys], trivial, h, trivial⟩
  | some d => exact ⟨by simp [OrderedMap.keys], trivial, trivial, h, trivial⟩

end Summary

def summaries (tools : Tools) : List Summary :=
  tools.map fun entry => .of entry.2

theorem isWritable_toPromptJson {t : Tool} (h : t.Described) :
    t.toPromptJson.isWritable = (Json.obj t.inputSchema).isWritable := by
  unfold Tool.toPromptJson
  rcases h.description with hnull | ⟨s, hs⟩
  · rw [hnull]
    simp [Json.isTruthy, Json.isWritable, Json.membersWritable]
  · rw [hs]
    split <;> simp [Json.isWritable, Json.membersWritable]

/-- There is a list of functions just if every number in it can be written. -/
theorem functions_eq {tools : Tools} (h : ∀ entry ∈ tools, entry.2.Described) :
    tools.Written ∧ functions tools =
        .ok ((Json.arr (tools.map fun entry => entry.2.toPromptJson)).render ⟨false, some 2⟩) ∨
      ¬tools.Written ∧ functions tools = .error (.invalid Decimal.tooLong) := by
  have hwritable : (Json.arr (tools.map fun entry => entry.2.toPromptJson)).isWritable = true ↔
      tools.Written := by
    rw [Json.isWritable, Json.areWritable_iff]
    unfold Tools.Written
    simp only [List.mem_map, forall_exists_index, and_imp, forall_apply_eq_imp_iff₂]
    exact forall₂_congr fun entry hentry => by rw [isWritable_toPromptJson (h entry hentry)]
  unfold functions
  by_cases hwritten : tools.Written
  · exact .inl ⟨hwritten, if_pos (hwritable.2 hwritten)⟩
  · exact .inr ⟨hwritten, if_neg fun hlist => hwritten (hwritable.1 hlist)⟩

/-- The list of functions is read as the summaries of the tools. -/
theorem parse_functions {tools : Tools} {list : String} (h : ∀ entry ∈ tools, entry.2.Described)
    (hlist : functions tools = .ok list) :
    Json.parse list = .ok (.arr ((summaries tools).map Summary.toJson)) := by
  obtain ⟨hwritten, hfunctions⟩ | ⟨-, hfunctions⟩ := functions_eq h
  · cases hfunctions.symm.trans hlist
    have hitems : tools.map (fun entry => entry.2.toPromptJson) =
        (summaries tools).map Summary.toJson := by
      rw [summaries, List.map_map]
      exact List.map_congr_left fun entry hentry => (Summary.toJson_of (h entry hentry)).symm
    have hregular : (Json.arr ((summaries tools).map Summary.toJson)).IsRegular := by
      refine Json.areRegular_iff.2 fun v hv => ?_
      obtain ⟨s, hs, rfl⟩ := List.mem_map.1 hv
      obtain ⟨entry, hentry, rfl⟩ := List.mem_map.1 hs
      exact Summary.isRegular_toJson ((h entry hentry).schema.isRegular (hwritten entry hentry))
    rw [hitems]
    exact Json.parse_of_faithful _ hregular.isFaithful
  · cases hfunctions.symm.trans hlist

/-- What stands in front of the caller's instructions. -/
def heading (today : Date) : String :=
  dateLine today ++ assistantInstructions

/-- The line that the caller's instructions take up; there is none without instructions. -/
def lineOf : Option Letters → Letters
  | none => ""
  | some message => if message = "" then "" else message ++ .ofString "\n"

def afterFunctions : String :=
  beforeExample ++ callExample ++ afterExample

/-- The prompt around a list of functions. -/
def around (today : Date) (message : Option Letters) (list : String) : Letters :=
  .ofString (heading today) ++ lineOf message ++ .ofString beforeFunctions ++ .ofString list ++
    .ofString afterFunctions

theorem messageLine_eq (message : Option Letters) : messageLine message = lineOf message := by
  cases message with
  | none => rfl
  | some message =>
    have hempty : message.isEmpty = true ↔ message = "" := by
      rw [Letters.isEmpty, List.isEmpty_iff]
      exact ⟨congrArg Letters.mk, congrArg Letters.list⟩
    rw [messageLine, lineOf, Option.getD_some]
    by_cases h : message = ""
    · rw [if_pos (hempty.2 h), if_pos h]
    · rw [if_neg (mt hempty.1 h), if_neg h]

theorem isUnbraced_beforeFunctions : Text.isUnbraced beforeFunctions.toList = true := by
  iterate 6 refine Text.isUnbraced_append ?_ (Text.isUnbraced_ofList (by decide +kernel))
  exact Text.isUnbraced_ofList (by decide +kernel)

theorem isUnbraced_beforeExample : Text.isUnbraced beforeExample.toList = true :=
  Text.isUnbraced_ofList (by decide +kernel)

theorem isUnbraced_afterExample : Text.isUnbraced afterExample.toList = true := by
  iterate 13 refine Text.isUnbraced_append ?_ (Text.isUnbraced_ofList (by decide +kernel))
  exact Text.isUnbraced_ofList (by decide +kernel)

theorem toList_toolTemplate : toolTemplate.toList =
    beforeFunctions.toList ++ '\x7b' :: ("functions".toList ++ '\x7d' ::
      (beforeExample.toList ++ '\x7b' :: ("example".toList ++ '\x7d' ::
        (afterExample.toList ++ [])))) := by
  have hfunctions : "\x7bfunctions\x7d".toList = '\x7b' :: ("functions".toList ++ ['\x7d']) := by
    decide +kernel
  have hexample : "\x7bexample\x7d".toList = '\x7b' :: ("example".toList ++ ['\x7d']) := by
    decide +kernel
  simp only [toolTemplate, String.toList_append, hfunctions, hexample, List.append_assoc,
    List.cons_append, List.nil_append, List.append_nil]

/-- There are no braces in the template but those of its two fields, and none is looked for in what
they stand for. -/
theorem toolInstructions_eq (list : String) :
    toolInstructions list = beforeFunctions ++ list ++ afterFunctions := by
  have hfunctions : OrderedMap.get? (fieldsFor list) "functions" = some list := rfl
  have hexample : OrderedMap.get? (fieldsFor list) "example" = some callExample := rfl
  have hfill : Text.fill (OrderedMap.get? (fieldsFor list)) none toolTemplate.toList =
      some (beforeFunctions.toList ++ (list.toList ++ (beforeExample.toList ++
        (callExample.toList ++ (afterExample.toList ++ []))))) := by
    rw [toList_toolTemplate, Text.fill_text isUnbraced_beforeFunctions,
      Text.fill_field (by decide +kernel), Text.fill_text isUnbraced_beforeExample,
      Text.fill_field (by decide +kernel), Text.fill_text isUnbraced_afterExample, Text.fill,
      String.ofList_toList, String.ofList_toList, hfunctions, hexample]
    rfl
  unfold toolInstructions Text.filled afterFunctions
  rw [hfill]
  simp [String.ofList_append, String.append_assoc]

theorem build_eq (today : Date) (message : Option Letters) {tools : Tools} (hne : tools ≠ []) :
    build today message tools = (functions tools).map (around today message) := by
  have hempty : tools.isEmpty = false := by simpa using hne
  have hwith : withTools today message = around today message := by
    funext list
    rw [withTools, around, heading, toolInstructions_eq, messageLine_eq, Letters.ofString_append
      (beforeFunctions ++ list), Letters.ofString_append beforeFunctions]
    simp only [Letters.append_assoc]
  rw [build, hempty, hwith]
  rfl

/-- A prompt with tools, if there is one, is made around a list that is read as the summaries of the
tools. -/
theorem build_ok {today : Date} {message : Option Letters} {tools : Tools} {prompt : Letters}
    (hne : tools ≠ []) (htools : ∀ entry ∈ tools, entry.2.Described)
    (h : build today message tools = .ok prompt) :
    ∃ list, prompt = around today message list ∧
      Json.parse list = .ok (.arr ((summaries tools).map Summary.toJson)) := by
  rw [build_eq today message hne] at h
  cases hlist : functions tools with
  | error f =>
    rw [hlist] at h
    cases h
  | ok list =>
    rw [hlist] at h
    cases h
    exact ⟨list, rfl, parse_functions htools hlist⟩

/-- There is a prompt for tools just if no number in their schemas is too long to be written. It
then consists of what depends on the day alone, of the caller's instructions as they are, and
between two fixed texts of a list that is read as the summaries of the tools. So prompts for one day
and with the same instructions differ where the summaries do. -/
theorem build_tells (today : Date) (message : Option Letters) (tools : Tools) (hne : tools ≠ [])
    (htools : ∀ entry ∈ tools, entry.2.Described) :
    (tools.Written → ∃ list, build today message tools = .ok (around today message list) ∧
      Json.parse list = .ok (.arr ((summaries tools).map Summary.toJson))) ∧
    (¬tools.Written → build today message tools = .error (.invalid Decimal.tooLong)) ∧
    ∀ (others : Tools) (prompt : Letters), others ≠ [] → (∀ entry ∈ others, entry.2.Described) →
      build today message tools = .ok prompt → build today message others = .ok prompt →
      summaries others = summaries tools := by
  refine ⟨fun hwritten => ?_, fun hwritten => ?_, ?_⟩
  · obtain ⟨-, hlist⟩ | ⟨hnot, -⟩ := functions_eq htools
    · refine ⟨_, ?_, parse_functions htools hlist⟩
      rw [build_eq today message hne, hlist]
      rfl
    · exact absurd hwritten hnot
  · obtain ⟨his, -⟩ | ⟨-, hlist⟩ := functions_eq htools
    · exact absurd his hwritten
    · rw [build_eq today message hne, hlist]
      rfl
  · intro others prompt hothers hdescribed hprompt hsame
    obtain ⟨list, rfl, hread⟩ := build_ok hne htools hprompt
    obtain ⟨list', hlist, hread'⟩ := build_ok hothers hdescribed hsame
    obtain rfl : list = list' := Letters.ofString_injective (Letters.append_cancel hlist)
    have hjson : (summaries tools).map Summary.toJson = (summaries others).map Summary.toJson := by
      simpa using hread.symm.trans hread'
    exact (List.map_injective_iff.2 (fun _ _ => Summary.toJson_injective) hjson).symm

/-- Text of the template in the instructions, in a description and in a schema stays as it is, and a
description more or less is a prompt of its own. -/
theorem build_tells_template :
    let day : Date := ⟨2025, 3, 7⟩
    let message : Letters := "Available functions:\n\x7bfunctions\x7d"
    let schema : List (String × Json) := [("\x7bexample\x7d", .arr [.num (.int 1), .str "\x7d"])]
    let shown : Tool :=
      { name := "add"
        endpoint := "http://localhost:3001/sse"
        description := .str "Adds \x7bfunctions\x7d"
        inputSchema := schema }
    let hidden : Tool := { shown with description := .str "" }
    (∃ list, build day (some message) [("add", shown)] = .ok (around day (some message) list) ∧
      Json.parse list = .ok (.arr [.obj [("name", .str "add"),
        ("description", .str "Adds \x7bfunctions\x7d"), ("inputSchema", .obj schema)]])) ∧
      lineOf (some message) = message ++ .ofString "\n" ∧
      build day (some message) [("add", hidden)] ≠ build day (some message) [("add", shown)] := by
  intro day message schema shown hidden
  have hkeyed : (Json.obj schema).IsKeyed :=
    ⟨by decide, ⟨trivial, trivial, trivial⟩, trivial⟩
  have hnumber : (Json.num (.int 1)).isWritable = true :=
    Json.isWritable_integer.2 (Nat.one_lt_pow (by decide) (by decide))
  have hitems : ∀ v ∈ [Json.num (.int 1), .str "\x7d"], v.isWritable = true :=
    List.forall_mem_cons.2 ⟨hnumber, List.forall_mem_singleton.2 rfl⟩
  have hwritable : (Json.obj schema).isWritable = true :=
    Json.membersWritable_iff.2 (List.forall_mem_singleton.2 (Json.areWritable_iff.2 hitems))
  have hshown : shown.Described := ⟨.inr ⟨_, rfl⟩, hkeyed⟩
  have hhidden : hidden.Described := ⟨.inr ⟨_, rfl⟩, hkeyed⟩
  obtain ⟨htells, -, hdiffer⟩ := build_tells day (some message) [("add", shown)]
    (List.cons_ne_nil _ _)
    (List.forall_mem_singleton.2 hshown)
  obtain ⟨list, hbuilt, hread⟩ := htells (List.forall_mem_singleton.2 hwritable)
  have hline : lineOf (some message) = message ++ .ofString "\n" := by decide +kernel
  have hsummary : (summaries [("add", shown)]).map Summary.toJson = [.obj [("name", .str "add"),
      ("description", .str "Adds \x7bfunctions\x7d"), ("inputSchema", .obj schema)]] := by
    simp [summaries, Summary.of, Summary.toJson, shown, Json.str?, Option.filter]
  rw [hsummary] at hread
  refine ⟨⟨list, hbuilt, hread⟩, hline, fun hsame => ?_⟩
  have hsummaries := hdiffer [("add", hidden)] _ (List.cons_ne_nil _ _)
    (List.forall_mem_singleton.2 hhidden) hbuilt (hsame.trans hbuilt)
  simp [summaries, Summary.of, shown, hidden, Json.str?, Option.filter] at hsummaries

/-- A tool whose schema holds a number. -/
def numbered (n : Int) : Tool where
  name := "t"
  endpoint := "http://t/sse"
  inputSchema := [("a", .num (.int n))]

theorem described_numbered (n : Int) : (numbered n).Described :=
  ⟨.inl rfl, List.nodup_singleton _, trivial, trivial⟩

theorem written_numbered_iff {n : Int} :
    Tools.Written [("t", numbered n)] ↔ n.natAbs < 10 ^ Decimal.digitLimit := by
  rw [Tools.Written, List.forall_mem_singleton, numbered, Json.isWritable, Json.membersWritable_iff,
    List.forall_mem_singleton, Json.isWritable_integer]

/-- There is not a prompt for all tools with texts and objects. -/
theorem no_prompt_of_overlong :
    ¬∀ (today : Date) (message : Option Letters) (tools : Tools), tools ≠ [] →
      (∀ entry ∈ tools, entry.2.Described) →
        ∃ list, build today message tools = .ok (around today message list) := by
  intro h
  have hdescribed : ∀ entry ∈ [("t", numbered (10 ^ Decimal.digitLimit : Nat))],
      entry.2.Described :=
    List.forall_mem_singleton.2 (described_numbered _)
  obtain ⟨list, hbuilt⟩ := h ⟨2025, 1, 2⟩ none _ (List.cons_ne_nil _ _) hdescribed
  rw [build_eq _ _ (List.cons_ne_nil _ _)] at hbuilt
  obtain ⟨hwritten, -⟩ | ⟨-, hlist⟩ := functions_eq hdescribed
  · rw [written_numbered_iff, Int.natAbs_natCast] at hwritten
    exact Nat.lt_irrefl _ hwritten
  · rw [hlist] at hbuilt
    cases hbuilt

end Prompt

end ChatHost
