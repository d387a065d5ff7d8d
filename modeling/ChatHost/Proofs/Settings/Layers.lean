import ChatHost.Proofs.Act
import ChatHost.Proofs.Json.Printed
import ChatHost.Proofs.Text.Utf8
import ChatHost.Settings.Store

set_option autoImplicit false

/-!
How settings come together. For each field the environment, the caller and the file may give a
value; the first of them that does decides, and no other field plays a part in it.
-/

namespace ChatHost

namespace Field

theorem ofName?_name (f : Field) : ofName? f.name = some f := by
  cases f <;> decide

theorem ofName?_eq_some {k : String} {f : Field} : ofName? k = some f ↔ k = f.name := by
  constructor
  · intro h
    have hname := List.find?_some (show all.find? (fun f => decide (f.name = k)) = some f from h)
    exact (of_decide_eq_true hname).symm
  · rintro rfl
    exact ofName?_name f

theorem name_inj {f g : Field} : f.name = g.name ↔ f = g :=
  ⟨fun h => Option.some.inj ((ofName?_name f).symm.trans (h ▸ ofName?_name g)), fun h => h ▸ rfl⟩

end Field

namespace Settings

variable {homes : Path.Homes} {g : Given} {f : Field} {s s' : Settings}

/-- What a given value becomes in a field of a kind. A path has a home directory in place of a mark
for one. A text alone is a list of one. -/
def Becomes (homes : Path.Homes) (g : Given) : (k : Field.Kind) → k.Value → Prop
  | .path, p => ∃ named : Path,
      (g = .path named ∨ ∃ s, g = .json (.str s) ∧ named = Path.ofString s) ∧
        named.expand? homes = some p
  | .names, xs => g = .json (.arr xs) ∨ (∃ s, g = .json (.str s) ∧ xs = [.str s]) ∨
      ∃ members, g = .json (.obj members) ∧ xs = (OrderedMap.keys members).map .str
  | .text, v | .whole, v | .real, v | .flag, v => v = g.toJson

theorem readPath_ok_iff {p : Path} :
    readPath homes g = .ok p ↔ Becomes homes g .path p := by
  unfold readPath Becomes
  cases g with
  | path named => cases h : named.expand? homes <;> simp [h]
  | json v =>
    cases v with
    | str s => cases h : (Path.ofString s).expand? homes <;> simp [h]
    | _ => simp

theorem readNames_ok_iff {xs : List Json} :
    readNames g = .ok xs ↔ Becomes homes g .names xs := by
  unfold readNames Becomes
  cases g with
  | path named => simp
  | json v => cases v <;> simp [eq_comm]

theorem readValue_ok_iff {k : Field.Kind} {v : k.Value} :
    readValue homes g k = .ok v ↔ Becomes homes g k v := by
  cases k with
  | path => exact readPath_ok_iff
  | names => exact readNames_ok_iff
  | text | whole | real | flag => exact (Except.ok.injEq _ _).to_iff.trans eq_comm

theorem Becomes.unique {k : Field.Kind} {v w : k.Value} (hv : Becomes homes g k v)
    (hw : Becomes homes g k w) : v = w :=
  Except.ok.inj ((readValue_ok_iff.2 hv).symm.trans (readValue_ok_iff.2 hw))

/-- The value of a field over the one below: what the given value becomes, if there is one. -/
def Takes (homes : Path.Homes) (given : Option Given) {k : Field.Kind} (below v : k.Value) : Prop :=
  match given with
  | none => v = below
  | some g => Becomes homes g k v

theorem Takes.unique {given : Option Given} {k : Field.Kind} {below v w : k.Value}
    (hv : Takes homes given below v) (hw : Takes homes given below w) : v = w := by
  cases given with
  | none => exact Eq.trans hv (Eq.symm hw)
  | some g => exact Becomes.unique hv hw

def Laid (homes : Path.Homes) (given : Field → Option Given) (s s' : Settings) : Prop :=
  ∀ f, Takes homes (given f) (s f) (s' f)

theorem readValue_of_not_refusable (hf : f ∉ refusable) (g : Given) :
    ∃ v, readValue homes g f.kind = .ok v := by
  cases f <;> first | exact absurd (by decide) hf | exact ⟨_, rfl⟩

theorem refusal?_eq_none_iff {given : OrderedMap Field Given} :
    refusal? homes given = none ↔
      ∀ f g, OrderedMap.get? given f = some g → ∃ v, readValue homes g f.kind = .ok v := by
  unfold refusal?
  rw [List.findSome?_eq_none_iff]
  constructor
  · intro h f g hg
    by_cases hf : f ∈ refusable
    · have hread := h f hf
      rw [hg] at hread
      cases hv : readValue homes g f.kind with
      | ok v => exact ⟨v, rfl⟩
      | error e => simp [hv] at hread
    · exact readValue_of_not_refusable hf g
  · intro h f _
    cases hg : OrderedMap.get? given f with
    | none => rfl
    | some g =>
      obtain ⟨v, hv⟩ := h f g hg
      simp [hv]

/-- What is given for a field takes the place of the value below, once it is read. -/
theorem over_layerOf {given : OrderedMap Field Given} (h : refusal? homes given = none) :
    Laid homes (OrderedMap.get? given) s ((layerOf homes given).over s) := by
  intro f
  unfold Layer.over layerOf
  cases hg : OrderedMap.get? given f with
  | none => rfl
  | some g =>
    obtain ⟨v, hv⟩ := refusal?_eq_none_iff.1 h f g hg
    simpa [hv, Takes] using readValue_ok_iff.1 hv

theorem Laid.unique {given : Field → Option Given} {s₁ s₂ : Settings} (h₁ : Laid homes given s s₁)
    (h₂ : Laid homes given s s₂) : s₁ = s₂ :=
  funext fun f => (h₁ f).unique (h₂ f)

theorem apply_ok_iff {σ : Type} (source : String) (given : OrderedMap Field Given) (w : σ) :
    ((apply homes source given s).run w).result = .ok s' ↔
      Laid homes (OrderedMap.get? given) s s' := by
  have happlied : refusal? homes given = none →
      ((apply homes source given s).run w).result = .ok ((layerOf homes given).over s) := by
    intro h
    unfold apply
    rw [h]
    cases given with
    | nil => rfl
    | cons entry given => rfl
  constructor
  · intro h
    cases hrefusal : refusal? homes given with
    | none =>
      cases (happlied hrefusal).symm.trans h
      exact over_layerOf hrefusal
    | some fault =>
      unfold apply at h
      rw [hrefusal] at h
      cases h
  · intro h
    have hrefusal : refusal? homes given = none := by
      refine refusal?_eq_none_iff.2 fun f g hg => ⟨s' f, readValue_ok_iff.2 ?_⟩
      have hf := h f
      rw [hg] at hf
      exact hf
    rw [happlied hrefusal, (over_layerOf hrefusal).unique h]

/-- What entries give for a field: the value at the field's name, unless it is null. -/
def inEntries (entries : List (String × Given)) (f : Field) : Option Given :=
  (OrderedMap.get? entries f.name).filter fun g => !g.isNull

/-- What an environment gives for a field: the value of the field's variable, if the field has one
that is set and holds a value of the field's kind. -/
def inEnvironment (env : Environment) (f : Field) : Option Given :=
  (OrderedMap.get? fieldVariables f).bind fun name =>
    match variableGives env f name with
    | some (.ok g) => some g
    | _ => none

theorem applyEntries_ok_iff {σ : Type} {source : String} {entries : List (String × Given)} {w : σ}
    (hkeys : (OrderedMap.keys entries).Nodup) :
    ((applyEntries homes source entries s).run w).result = .ok s' ↔
      Laid homes (inEntries entries) s s' := by
  have hgiven : OrderedMap.get? (entries.filterMap fun e =>
      if e.2.isNull then none else (Field.ofName? e.1).map fun f => (f, e.2)) =
        inEntries entries := by
    funext f
    rw [OrderedMap.get?_filterMap hkeys _ f.name f]
    · unfold inEntries
      cases hg : OrderedMap.get? entries f.name with
      | none => rfl
      | some g =>
        cases hnull : g.isNull <;> simp [hnull, Field.ofName?_name, Option.filter]
    · intro j a f' b hentry
      dsimp only at hentry
      split at hentry
      · cases hentry
      · obtain ⟨f'', hf, hpair⟩ := Option.map_eq_some_iff.1 hentry
        cases hpair
        rw [Field.ofName?_eq_some.1 hf, Field.name_inj]
  rw [← hgiven]
  exact apply_ok_iff source _ w

theorem applyEnvironment_ok_iff {σ : Type} {env : Environment} {w : σ} :
    ((applyEnvironment homes env s).run w).result = .ok s' ↔
      Laid homes (inEnvironment env) s s' := by
  have hgiven : OrderedMap.get? (givenByEnvironment env) = inEnvironment env := by
    funext f
    have hkeys : (OrderedMap.keys fieldVariables).Nodup := by decide
    unfold givenByEnvironment inEnvironment
    rw [OrderedMap.get?_filterMap hkeys _ f f]
    · cases OrderedMap.get? fieldVariables f with
      | none => rfl
      | some name =>
        dsimp only [Option.bind_some]
        split <;> simp_all
    · intro j a f' b hentry
      dsimp only at hentry
      split at hentry <;> cases hentry
      rfl
  rw [← hgiven]
  exact apply_ok_iff "environment" (givenByEnvironment env) w

def fileEntries (members : List (String × Json)) : List (String × Given) :=
  members.map fun m => (m.1, .json m.2)

theorem keys_fileEntries (members : List (String × Json)) :
    OrderedMap.keys (fileEntries members) = OrderedMap.keys members := by
  simp [fileEntries, OrderedMap.keys]

/-- What is read from a file can be written again; in particular it has one member for a key. -/
theorem isRegular_of_readFile {p : Path} {t : FileTree} {members : List (String × Json)}
    (h : ((readFile p).run t).result = .ok members) : (Json.obj members).IsRegular := by
  have hnone : (Json.obj []).IsRegular := ⟨List.nodup_nil, trivial⟩
  unfold readFile at h
  rw [Act.result_bind] at h
  split at h
  · cases h
  · cases h
    exact hnone
  · rw [Act.result_bind] at h
    split at h
    · cases h
    · unfold membersOf at h
      split at h
      · cases h
      · split at h
        · cases h
        · cases h
          exact hnone
        · rename_i hparse
          cases h
          exact Json.isRegular_of_parseChars hparse
        · cases h
          exact hnone

theorem load_ok_iff {c : Context} {p : Path} {overrides : List (String × Given)} {t : FileTree}
    (hoverrides : (OrderedMap.keys overrides).Nodup) :
    ((load c p overrides).run t).result = .ok s ↔
      ∃ members, ((readFile p).run t).result = .ok members ∧ ∃ s₁ s₂,
        Laid c.homes (inEntries (fileEntries members)) (standard c.homes.own) s₁ ∧
        Laid c.homes (inEntries overrides) s₁ s₂ ∧
        Laid c.homes (inEnvironment c.environment) s₂ s := by
  unfold load
  rw [Act.result_andThen_ok]
  refine exists_congr fun members => and_congr_right fun hmembers => ?_
  have hkeys : (OrderedMap.keys (fileEntries members)).Nodup :=
    (keys_fileEntries members).symm ▸ (isRegular_of_readFile hmembers).1
  simp only [Act.result_andThen_ok, applyEntries_ok_iff hoverrides, applyEnvironment_ok_iff]
  have hfile (s₁ : Settings) (w : FileTree) :
      ((applyEntries c.homes "file" (fileEntries members) (standard c.homes.own)).run w).result =
        .ok s₁ ↔ Laid c.homes (inEntries (fileEntries members)) (standard c.homes.own) s₁ :=
    applyEntries_ok_iff hkeys
  constructor
  · rintro ⟨s₁, h₁, s₂, h₂, h₃⟩
    exact ⟨s₁, s₂, (hfile s₁ _).1 h₁, h₂, h₃⟩
  · rintro ⟨s₁, s₂, h₁, h₂, h₃⟩
    exact ⟨s₁, (hfile s₁ _).2 h₁, s₂, h₂, h₃⟩

/-- Whether all that a source gives can be brought to the kinds of the fields. -/
def Usable (homes : Path.Homes) (given : Field → Option Given) : Prop :=
  ∀ f g, given f = some g → ∃ v, Becomes homes g f.kind v

theorem usable_nothing : Usable homes (inEntries []) := by
  intro f g hg
  cases hg

theorem usable_of_refusable {given : Field → Option Given}
    (h : ∀ f ∈ refusable, ∀ g, given f = some g → ∃ v, Becomes homes g f.kind v) :
    Usable homes given := by
  intro f g hg
  by_cases hf : f ∈ refusable
  · exact h f hf g hg
  · obtain ⟨v, hv⟩ := readValue_of_not_refusable hf g
    exact ⟨v, readValue_ok_iff.1 hv⟩

/-- What is given for a field by the strongest of the sources that give something for it. -/
def strongest (c : Context) (overrides : List (String × Given)) (members : List (String × Json))
    (f : Field) : Option Given :=
  (inEnvironment c.environment f).or
    ((inEntries overrides f).or (inEntries (fileEntries members) f))

theorem Laid.usable {given : Field → Option Given} (h : Laid homes given s s') :
    Usable homes given := by
  intro f g hg
  have hf := h f
  rw [hg] at hf
  exact ⟨s' f, hf⟩

theorem Usable.laid {given : Field → Option Given} (h : Usable homes given) (s : Settings) :
    ∃ s', Laid homes given s s' := by
  have hvalue (f : Field) : ∃ v, Takes homes (given f) (s f) v := by
    cases hg : given f with
    | none => exact ⟨s f, rfl⟩
    | some g => exact h f g hg
  choose s' hs' using hvalue
  exact ⟨s', hs'⟩

/-- A source over another one gives what it has, and else what the other has. -/
theorem Laid.over {weak strong : Field → Option Given} {s₁ : Settings}
    (hweak : Laid homes weak s s₁) :
    Laid homes strong s₁ s' ↔ Laid homes (fun f => (strong f).or (weak f)) s s' := by
  refine forall_congr' fun f => ?_
  dsimp only
  cases strong f with
  | some g => exact Iff.rfl
  | none => exact ⟨fun h => Eq.symm h ▸ hweak f, fun h => h.unique (hweak f)⟩

/-- Whether a file holds an object with some members, or there is none and there are no members. -/
inductive Holds (t : FileTree) (p : Path) : List (String × Json) → Prop
  | nothing (h : t.present p = .ok false) : Holds t p []
  | object (content : Text.Bytes) (text : List Char) (members : List (String × Json))
      (hpresent : t.present p = .ok true) (hread : t.read p = .ok content)
      (hdecode : Text.decodeUtf8 content = .ok text)
      (hparse : Json.parseChars (unifyLineEnds text) = .ok (.obj members)) : Holds t p members

theorem unifyLineEnds_of_not_mem {s : List Char} (h : '\r' ∉ s) : unifyLineEnds s = s := by
  induction s with
  | nil => rfl
  | cons c s ih =>
    obtain ⟨hc, hs⟩ := not_or.1 (mt List.mem_cons.2 h)
    unfold unifyLineEnds
    split
    · simp_all
    · simp_all
    · rename_i heq
      cases heq
      rw [ih hs]
    · rename_i heq
      cases heq

/-- What a regular value is written as in ASCII is read from a file as it is. -/
theorem reads_render {v : Json} (hv : v.IsRegular) (indent : Option Nat) :
    ∃ text, Text.decodeUtf8 (Text.utf8 (v.render ⟨true, indent⟩)) = .ok text ∧
      Json.parseChars (unifyLineEnds text) = .ok v := by
  have hprinted := Json.isPrinted_writeAt indent 0 v
  refine ⟨Json.writeAt ⟨true, indent⟩ 0 v, ?_, ?_⟩
  · rw [Text.utf8, Json.render, String.toList_ofList]
    exact Text.decodeUtf8_eq_ok.2 rfl
  · rw [unifyLineEnds_of_not_mem fun hr => (hprinted _ hr).2 rfl]
    have hparse := Json.parse_of_faithful ⟨true, indent⟩ hv.isFaithful
    rwa [Json.parse, Json.render, String.toList_ofList] at hparse

/-- A file that a regular object was written to holds its members. -/
theorem holds_render {t : FileTree} {p : Path} {members : List (String × Json)}
    (hmembers : (Json.obj members).IsRegular) (indent : Option Nat)
    (hpresent : t.present p = .ok true)
    (hread : t.read p = .ok (Text.utf8 ((Json.obj members).render ⟨true, indent⟩))) :
    Holds t p members := by
  obtain ⟨text, hdecode, hparse⟩ := reads_render hmembers indent
  exact .object _ text members hpresent hread hdecode hparse

theorem readFile_of_holds {t : FileTree} {p : Path} {members : List (String × Json)}
    (h : Holds t p members) : ((readFile p).run t).result = .ok members := by
  show (readFile p).Ends t fun result _ => result = .ok members
  cases h with
  | nothing h =>
    have hfound : (Act.read fun t : FileTree => t.present p).Ends t fun found _ =>
        found = .ok false := h
    refine hfound.bind ?_
    rintro _ _ rfl
    rfl
  | object content text _ hpresent hread hdecode hparse =>
    have hfound : (Act.read fun t : FileTree => t.present p).Ends t fun found v =>
        found = .ok true ∧ v = t := ⟨hpresent, rfl⟩
    have hcontent : (Act.read fun t : FileTree => t.read p).Ends t fun found _ =>
        found = .ok content := hread
    refine hfound.bind ?_
    rintro _ _ ⟨rfl, rfl⟩
    refine hcontent.bind ?_
    rintro _ _ rfl
    dsimp only [membersOf]
    rw [hdecode]
    dsimp only
    rw [hparse]
    rfl

/-- What loading gives, and when it gives something: all that the file and the caller give has to be
usable, and each field has what the strongest source gives for it, or the standard value. -/
theorem load_ok_iff_strongest {c : Context} {p : Path} {overrides : List (String × Given)}
    {t : FileTree} {members : List (String × Json)}
    (hfile : ((readFile p).run t).result = .ok members)
    (hoverrides : (OrderedMap.keys overrides).Nodup) :
    ((load c p overrides).run t).result = .ok s ↔
      Usable c.homes (inEntries (fileEntries members)) ∧ Usable c.homes (inEntries overrides) ∧
        Laid c.homes (strongest c overrides members) (standard c.homes.own) s := by
  rw [load_ok_iff hoverrides]
  constructor
  · rintro ⟨members', hmembers, s₁, s₂, h₁, h₂, h₃⟩
    cases hfile.symm.trans hmembers
    exact ⟨h₁.usable, h₂.usable, (Laid.over (h₁.over.1 h₂)).1 h₃⟩
  · rintro ⟨hweak, hmiddle, hlaid⟩
    obtain ⟨s₁, h₁⟩ := hweak.laid (standard c.homes.own)
    obtain ⟨s₂, h₂⟩ := hmiddle.laid s₁
    exact ⟨members, hfile, s₁, s₂, h₁, h₂, (Laid.over (h₁.over.1 h₂)).2 hlaid⟩

/-- Loading gives each field what the strongest source gives for it, brought to the field's kind, or
else the standard value; and it gives something just if all that is given is usable. Two loads that
agree on the sources of a field agree on the field, whatever else they are given. -/
theorem load_layers (c : Context) (p : Path) (t : FileTree) (members : List (String × Json))
    (overrides : List (String × Given)) (hfile : Holds t p members)
    (hoverrides : (OrderedMap.keys overrides).Nodup) :
    (∀ s, ((load c p overrides).run t).result = .ok s ↔
      Usable c.homes (inEntries (fileEntries members)) ∧ Usable c.homes (inEntries overrides) ∧
        ∀ f, Takes c.homes (strongest c overrides members f) (standard c.homes.own f) (s f)) ∧
    ∀ (c' : Context) (p' : Path) (t' : FileTree) (members' : List (String × Json))
      (overrides' : List (String × Given)) (s s' : Settings), Holds t' p' members' →
      (OrderedMap.keys overrides').Nodup → c'.homes = c.homes →
      ((load c p overrides).run t).result = .ok s →
      ((load c' p' overrides').run t').result = .ok s' →
      ∀ f, strongest c' overrides' members' f = strongest c overrides members f → s' f = s f := by
  refine ⟨fun s => load_ok_iff_strongest (readFile_of_holds hfile) hoverrides, ?_⟩
  intro c' p' t' members' overrides' s s' hfile' hoverrides' hhomes hs hs' f hsame
  have hf := ((load_ok_iff_strongest (readFile_of_holds hfile) hoverrides).1 hs).2.2 f
  have hf' := ((load_ok_iff_strongest (readFile_of_holds hfile') hoverrides').1 hs').2.2 f
  rw [hsame, hhomes] at hf'
  exact hf'.unique hf

/-- Some members of a file: one that names no field, one that is null, and a mark for a home. -/
def sparse : List (String × Json) :=
  [("port", .ofInt 9000), ("colour", .str "red"), ("models_dir", .str "~/m"), ("log_dir", .null),
    ("allowed_model_hosts", .str "example.org")]

/-- An environment with a host, and a port that is no number. -/
def muddled : Context where
  homes := .of ⟨.absolute, ["home", "me"]⟩
  environment := [("BLESSNET_LLM_HOST", "0.0.0.0"), ("BLESSNET_LLM_PORT", "many")]

def blended : Settings
  | .host => Json.str "0.0.0.0"
  | .port => Json.ofInt 9000
  | .modelsDir => ⟨.absolute, ["home", "me", "m"]⟩
  | .allowedModelHosts => [Json.str "example.org"]
  | .maxRetries => Json.ofInt 5
  | f => standard ⟨.absolute, ["home", "me"]⟩ f

theorem load_layers_blended :
    ((load muddled ⟨.absolute, ["s.json"]⟩
      [("host", .json (.str "10.0.0.1")), ("max_retries", .json (.ofInt 5)),
        ("mood", .json (.str "low"))]).run
      { nodes :=
          [(["s.json"], .file (Text.utf8 ((Json.obj sparse).render Json.compact)) 0)] }).result =
        .ok blended := by
  have hport : (9000 : Nat) < 10 ^ Decimal.digitLimit := by decide +kernel
  have hregular : (Json.obj sparse).IsRegular :=
    ⟨by decide, hport, trivial, trivial, trivial, trivial, trivial⟩
  refine ((load_layers muddled ⟨.absolute, ["s.json"]⟩ _ sparse _
    (holds_render hregular none rfl rfl) (by decide)).1 blended).2 ⟨?_, ?_, ?_⟩
  · refine usable_of_refusable fun f hf g hg => ?_
    fin_cases hf
    · exact ⟨_, _, .inr ⟨_, Option.some.inj hg.symm, rfl⟩, rfl⟩
    · cases hg
    · exact ⟨_, .inr (.inl ⟨_, Option.some.inj hg.symm, rfl⟩)⟩
    · cases hg
  · refine usable_of_refusable fun f hf g hg => ?_
    fin_cases hf <;> cases hg
  · intro f
    cases f
    case modelsDir => exact ⟨_, .inr ⟨_, rfl, rfl⟩, rfl⟩
    case allowedModelHosts => exact .inr (.inl ⟨_, rfl, rfl⟩)
    all_goals exact rfl

end Settings
end ChatHost
