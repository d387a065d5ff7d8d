import ChatHost.Proofs.Settings.Overrides
import ChatHost.Proofs.Settings.Restore

set_option autoImplicit false

/-!
A value for a field that has a variable, given on the command line or by the variable. Both ways
read it alike, but on the command line a path is read twice, so that a mark for a home directory
that comes to stand in front is taken for one again.
-/

namespace ChatHost.Settings

variable {homes : Path.Homes} {env : Environment} {c : Context} {f : Field} {name v : String}
  {g : Given}

/-! ### Variables -/

/-- What surrounds the loading of settings, with a variable set. -/
def Context.setting (c : Context) (name v : String) : Context :=
  { c with environment := OrderedMap.put name v c.environment }

theorem get?_fieldVariables :
    OrderedMap.get? fieldVariables f = some name ↔ (f, name) ∈ fieldVariables :=
  OrderedMap.get?_eq_some (by decide)

/-- No two fields have one variable. -/
theorem field_of_variable {f' : Field} (h : (f, name) ∈ fieldVariables)
    (h' : (f', name) ∈ fieldVariables) : f = f' := by
  have hall : ∀ e ∈ fieldVariables, ∀ e' ∈ fieldVariables, e.2 = e'.2 → e.1 = e'.1 := by decide
  exact hall _ h _ h' rfl

theorem inEnvironment_of_unset (hname : (f, name) ∈ fieldVariables)
    (hunset : OrderedMap.get? env name = none) : inEnvironment env f = none := by
  rw [inEnvironment, get?_fieldVariables.2 hname, Option.bind_some, variableGives, hunset]
  rfl

theorem variableGives_put (name' : String) (f' : Field) :
    variableGives (OrderedMap.put name v env) f' name' =
      if name' = name then some (readVariable f'.kind v) else variableGives env f' name' := by
  rw [variableGives, OrderedMap.get?_put]
  split_ifs <;> rfl

theorem inEnvironment_put (hname : (f, name) ∈ fieldVariables)
    (hread : readVariable f.kind v = .ok g) (h : Field) :
    inEnvironment (OrderedMap.put name v env) h =
      if h = f then some g else inEnvironment env h := by
  unfold inEnvironment
  split_ifs with hf
  · subst hf
    rw [get?_fieldVariables.2 hname, Option.bind_some, variableGives_put, if_pos rfl, hread]
  · cases hother : OrderedMap.get? fieldVariables h with
    | none => rfl
    | some other =>
      have hne : other ≠ name := by
        rintro rfl
        exact hf (field_of_variable (get?_fieldVariables.1 hother) hname)
      rw [Option.bind_some, Option.bind_some, variableGives_put, if_neg hne]

/-! ### What is read -/

theorem assigns_field (f : Field) (hv : Text.strip v = v) :
    Assigns (f.name ++ "=" ++ v) f.name v := by
  refine ⟨f.name.toList, v.toList, by simp, ?_, ?_, hv.symm⟩
  · cases f <;> decide
  · cases f <;> rfl

theorem parseOverrides_field (f : Field) (hv : Text.strip v = v) :
    parseOverrides homes [f.name ++ "=" ++ v] =
      (readOverride homes v f.kind).map fun g => [(f, g)] := by
  rw [parseOverrides, List.mapM_cons, parseOverride_of_field (assigns_field f hv)]
  cases readOverride homes v f.kind <;> rfl

theorem kind_of_variable (h : (f, name) ∈ fieldVariables) : f.kind ≠ .names := by
  have hall : ∀ e ∈ fieldVariables, e.1.kind ≠ .names := by decide
  exact hall _ h

/-- What the command line gives for a field other than a path or a list of names, a variable gives
as well. -/
theorem readVariable_of_readOverride {k : Field.Kind} (hpath : k ≠ .path) (hnames : k ≠ .names)
    (h : readOverride homes v k = .ok g) : readVariable k v = .ok g := by
  unfold readOverride at h
  cases k with
  | text =>
    cases h
    rfl
  | whole | real =>
    obtain ⟨x, hread, rfl⟩ := map_eq_ok.1 h
    rw [readVariable, hread]
    rfl
  | flag =>
    obtain ⟨b, hread, rfl⟩ := map_eq_ok.1 h
    unfold readFlag at hread
    -- a variable takes every word that does not mean yes for no
    split_ifs at hread with hyes hno
    · rw [readVariable, hyes, Except.ok.inj hread]
    · have hyes' : trueWords.contains (word v) = false := by simpa using hyes
      rw [readVariable, hyes', Except.ok.inj hread]
  | path => exact absurd rfl hpath
  | names => exact absurd rfl hnames

theorem readOverride_path : readOverride homes v .path = .ok g ↔
    ∃ q, (Path.ofString v).expand? homes = some q ∧ g = .path q := by
  unfold readOverride
  rw [map_eq_ok]
  refine exists_congr fun q => and_congr ?_ eq_comm
  rw [readPath_ok_iff]
  simp [Becomes]

theorem isNull_of_readOverride (hname : (f, name) ∈ fieldVariables)
    (h : readOverride homes v f.kind = .ok g) : g.isNull = false := by
  by_cases hpath : f.kind = .path
  · rw [hpath] at h
    obtain ⟨q, -, rfl⟩ := readOverride_path.1 h
    rfl
  · have hread := readVariable_of_readOverride hpath (kind_of_variable hname) h
    exact (isScalar_readVariable hread).isRegular.2

/-- Whether a text is a path that is no other one when it is read again. -/
def ReadsOnce (homes : Path.Homes) (v : String) : Prop :=
  ∀ q, (Path.ofString v).expand? homes = some q → q.expand? homes = some q

theorem readsOnce_of_absolute (hhomes : homes.All fun home => home.root ≠ .relative) (v : String) :
    ReadsOnce homes v :=
  fun _ hq => Path.expand?_of_unmarked (Path.expand?_unmarked hhomes hq)

theorem ReadsOnce.becomes_iff (h : ReadsOnce homes v) {q : Path}
    (hq : (Path.ofString v).expand? homes = some q) {k : Field.Kind} (hk : k = .path)
    {x : k.Value} : Becomes homes (.path q) k x ↔ Becomes homes (.json (.str v)) k x := by
  subst hk
  simp [Becomes, h q hq, hq]

/-- The command line refuses a text for a number just when a variable does not give one. -/
theorem readOverride_error_iff {k : Field.Kind} {what : String}
    (hk : k = .whole ∧ what = "integer" ∨ k = .real ∧ what = "float") :
    (∃ fault, readOverride homes v k = .error fault) ↔ readVariable k v = .error what := by
  unfold readOverride readVariable
  rcases hk with ⟨rfl, rfl⟩ | ⟨rfl, rfl⟩
  · cases Reading.whole v <;> simp [Except.map, Except.mapError]
  · cases Reading.real v <;> simp [Except.map, Except.mapError]

/-! ### What is loaded -/

/-- Whether settings have in all fields but one what the file and the environment give for them. -/
def Elsewhere (c : Context) (p : Path) (t : FileTree) (f : Field) (s : Settings) : Prop :=
  ∃ members, ((readFile p).run t).result = .ok members ∧
    Usable c.homes (inEntries (fileEntries members)) ∧
      ∀ h ≠ f, Takes c.homes (strongest c [] members h) (standard c.homes.own h) (s h)

section

variable {p : Path} {t : FileTree} {s s' : Settings}

theorem Elsewhere.congr (h : Elsewhere c p t f s) (hsame : ∀ h ≠ f, s h = s' h) :
    Elsewhere c p t f s' := by
  obtain ⟨members, hfile, hmembers, hlaid⟩ := h
  exact ⟨members, hfile, hmembers, fun h hne => hsame h hne ▸ hlaid h hne⟩

/-- What is loaded when a source over the file gives something for one field and nothing else. -/
theorem load_given_iff {c' : Context} {overrides : List (String × Given)}
    (hkeys : (OrderedMap.keys overrides).Nodup) (hhomes : c'.homes = c.homes)
    (honly : ∀ h g', inEntries overrides h = some g' → h = f ∧ g' = g)
    (hgiven : ∀ members, strongest c' overrides members f = some g)
    (hrest : ∀ members, ∀ h ≠ f, strongest c' overrides members h = strongest c [] members h) :
    ((load c' p overrides).run t).result = .ok s ↔
      Becomes c.homes g f.kind (s f) ∧ Elsewhere c p t f s := by
  constructor
  · intro h
    obtain ⟨members, hfile, -⟩ := (load_ok_iff hkeys).1 h
    rw [load_ok_iff_strongest hfile hkeys, hhomes] at h
    obtain ⟨hmembers, -, hlaid⟩ := h
    have hf := hlaid f
    rw [hgiven] at hf
    exact ⟨hf, members, hfile, hmembers, fun h hne => hrest members h hne ▸ hlaid h⟩
  · rintro ⟨hbecomes, members, hfile, hmembers, hlaid⟩
    rw [load_ok_iff_strongest hfile hkeys, hhomes]
    refine ⟨hmembers, fun h g' hg' => ?_, fun h => ?_⟩
    · obtain ⟨rfl, rfl⟩ := honly h g' hg'
      exact ⟨s h, hbecomes⟩
    · by_cases hne : h = f
      · subst hne
        rw [hgiven]
        exact hbecomes
      · rw [hrest members h hne]
        exact hlaid h hne

theorem load_override_iff (hunset : inEnvironment c.environment f = none)
    (hnull : g.isNull = false) :
    ((load c p [(f.name, g)]).run t).result = .ok s ↔
      Becomes c.homes g f.kind (s f) ∧ Elsewhere c p t f s := by
  have hself : inEntries [(f.name, g)] f = some g := by simp [inEntries, OrderedMap.get?, hnull]
  have hother (h : Field) (hne : h ≠ f) : inEntries [(f.name, g)] h = none := by
    have hname : h.name ≠ f.name := mt Field.name_inj.1 hne
    rw [inEntries, OrderedMap.get?_cons, if_neg hname]
    rfl
  refine load_given_iff (by simp [OrderedMap.keys]) rfl (fun h g' hg' => ?_) (fun members => ?_)
    fun members h hne => ?_
  · by_cases hne : h = f
    · subst hne
      exact ⟨rfl, Option.some.inj (hg'.symm.trans hself)⟩
    · rw [hother h hne] at hg'
      cases hg'
  · rw [strongest, hunset, hself]
    rfl
  · rw [strongest, hother h hne]
    rfl

theorem load_variable_iff (hname : (f, name) ∈ fieldVariables)
    (hread : readVariable f.kind v = .ok g) :
    ((load (c.setting name v) p []).run t).result = .ok s ↔
      Becomes c.homes g f.kind (s f) ∧ Elsewhere c p t f s := by
  have hgiven (h : Field) : inEnvironment (c.setting name v).environment h =
      if h = f then some g else inEnvironment c.environment h :=
    inEnvironment_put hname hread h
  refine load_given_iff List.nodup_nil rfl (fun h g' hg' => ?_) (fun members => ?_)
    fun members h hne => ?_
  · cases hg'
  · rw [strongest, hgiven, if_pos rfl]
    rfl
  · rw [strongest, strongest, hgiven, if_neg hne]

/-- Settings under an override are those under a variable but for the field that both set. -/
theorem load_override_iff_variable {g' : Given} (hname : (f, name) ∈ fieldVariables)
    (hunset : inEnvironment c.environment f = none) (hnull : g.isNull = false)
    (hread : readVariable f.kind v = .ok g') (husable : ∃ x, Becomes c.homes g' f.kind x) :
    ((load c p [(f.name, g)]).run t).result = .ok s ↔ Becomes c.homes g f.kind (s f) ∧
      ∃ s', ((load (c.setting name v) p []).run t).result = .ok s' ∧ ∀ h ≠ f, s h = s' h := by
  simp only [load_override_iff hunset hnull, load_variable_iff hname hread]
  refine and_congr_right fun _ => ⟨fun h => ?_, ?_⟩
  · obtain ⟨x, hx⟩ := husable
    obtain ⟨s', rfl, hsame⟩ : ∃ s' : Settings, s' f = x ∧ ∀ h ≠ f, s h = s' h :=
      ⟨Function.update s f x, Function.update_self f x s,
        fun h hne => (Function.update_of_ne hne x s).symm⟩
    exact ⟨s', ⟨hx, h.congr hsame⟩, hsame⟩
  · rintro ⟨s', ⟨-, h⟩, hsame⟩
    exact h.congr fun h hne => (hsame h hne).symm

end

/-! ### Numbers that are none -/

def asideRecord (name v what : String) : LogRecord :=
  ⟨.warning, logger, s!"Environment override {name}={v} is not a valid {what}"⟩

/-- Whether the environment leaves a variable aside: it records so, and what it lays over settings
is what it does without the variable. -/
def LeavesAside (c : Context) (name v what : String) : Prop :=
  ∀ (s : Settings) (t : FileTree),
    (applyEnvironment c.homes (c.setting name v).environment s).EndsWith t fun result _ records =>
      result = ((applyEnvironment c.homes c.environment s).run t).result ∧
        asideRecord name v what ∈ records

theorem mem_environmentRecords {record : LogRecord} :
    record ∈ environmentRecords env ↔ ∃ f name v what, (f, name) ∈ fieldVariables ∧
      OrderedMap.get? env name = some v ∧ readVariable f.kind v = .error what ∧
        record = asideRecord name v what := by
  unfold environmentRecords
  rw [List.mem_filterMap]
  constructor
  · rintro ⟨⟨f, name⟩, hmem, hentry⟩
    dsimp only at hentry
    split at hentry
    · rename_i what hgives
      obtain ⟨v, hget, hread⟩ := Option.map_eq_some_iff.1 hgives
      cases hentry
      rw [hget]
      exact ⟨f, name, v, what, hmem, hget, hread, rfl⟩
    · cases hentry
  · rintro ⟨f, name, v, what, hmem, hget, hread, rfl⟩
    refine ⟨(f, name), hmem, ?_⟩
    dsimp only
    rw [variableGives, hget, Option.map_some, hread]
    rfl

theorem asideRecord_inj {name' v' what what' : String} (hname : '=' ∉ name.toList)
    (hname' : '=' ∉ name'.toList) (h : asideRecord name v what = asideRecord name' v' what') :
    name = name' ∧ (v = v' → what = what') := by
  have hmessage := congrArg (fun record : LogRecord => record.message.toList) h
  simp only [asideRecord, String.toList_append, List.append_assoc, toString] at hmessage
  -- the first equals sign of the message is the one behind the name
  have hcut := congrArg (Text.cutFirst '=') (List.append_cancel_left hmessage)
  rw [show "=".toList = ['='] from rfl, List.singleton_append, List.singleton_append,
    Text.cutFirst_append hname, Text.cutFirst_append hname'] at hcut
  obtain ⟨hnames, hbacks⟩ := Prod.mk.inj hcut
  refine ⟨String.toList_inj.1 hnames, ?_⟩
  rintro rfl
  have hwhat := List.append_cancel_left (List.append_cancel_left (Option.some.inj hbacks))
  exact String.toList_inj.1 hwhat

/-- All records of the environment but those of variables left aside are for debugging. -/
theorem applyEnvironment_records (homes : Path.Homes) (env : Environment) (s : Settings)
    (t : FileTree) :
    ∃ rest, ((applyEnvironment homes env s).run t).records = environmentRecords env ++ rest ∧
      ∀ record ∈ rest, record.level = .debug := by
  refine ⟨_, rfl, ?_⟩
  unfold apply
  split
  · exact fun record h => absurd h List.not_mem_nil
  · split
    · exact fun record h => absurd h List.not_mem_nil
    · intro record h
      cases List.mem_singleton.1 h
      rfl

theorem givenByEnvironment_put (hname : (f, name) ∈ fieldVariables)
    (hunset : OrderedMap.get? env name = none) {what : String}
    (hread : readVariable f.kind v = .error what) :
    givenByEnvironment (OrderedMap.put name v env) = givenByEnvironment env := by
  unfold givenByEnvironment
  refine List.filterMap_congr fun ⟨f', name'⟩ hmem => ?_
  dsimp only
  rw [variableGives_put]
  split_ifs with hsame
  · subst hsame
    rw [field_of_variable hmem hname, hread, variableGives, hunset]
    rfl
  · rfl

theorem leavesAside_iff (hname : (f, name) ∈ fieldVariables)
    (hunset : OrderedMap.get? c.environment name = none) (what : String) :
    LeavesAside c name v what ↔ readVariable f.kind v = .error what := by
  have hget : OrderedMap.get? (c.setting name v).environment name = some v := by
    rw [Context.setting, OrderedMap.get?_put, if_pos rfl]
  constructor
  · intro h
    obtain ⟨-, hrecord⟩ := h (standard c.homes.own) {}
    obtain ⟨rest, hrecords, hrest⟩ :=
      applyEnvironment_records c.homes (c.setting name v).environment (standard c.homes.own) {}
    rw [hrecords, List.mem_append] at hrecord
    rcases hrecord with hrecord | hrecord
    · obtain ⟨f', name', v', what', hmem, hget', hread, hsame⟩ := mem_environmentRecords.1 hrecord
      have hsign : ∀ e ∈ fieldVariables, '=' ∉ e.2.toList := by decide
      obtain ⟨rfl, hwhat⟩ := asideRecord_inj (hsign _ hname) (hsign _ hmem) hsame
      obtain rfl := Option.some.inj (hget.symm.trans hget')
      rw [field_of_variable hname hmem, hwhat rfl, hread]
    · exact absurd (hrest _ hrecord) (show Level.warning ≠ Level.debug by decide)
  · intro h s t
    have hresult (env : Environment) : ((applyEnvironment c.homes env s).run t).result =
        ((apply c.homes "environment" (givenByEnvironment env) s).run t).result := rfl
    refine ⟨?_, List.mem_append_left _ ?_⟩
    · have hgiven : givenByEnvironment (c.setting name v).environment =
          givenByEnvironment c.environment := givenByEnvironment_put hname hunset h
      rw [hresult, hresult, hgiven]
    · exact mem_environmentRecords.2 ⟨f, name, v, what, hname, hget, h, rfl⟩

/-! ### Either way -/

/-- A value that the command line takes for a field makes the settings that it makes as the field's
variable, whatever the file holds, where it is no path that is another one when it is read again.
For a path the settings differ at most in that path, which the command line has read twice. A text
for a number is refused on the command line just when its variable is left aside. -/
theorem load_override_variable (c : Context) (f : Field) (name v : String)
    (hname : (f, name) ∈ fieldVariables) (hunset : OrderedMap.get? c.environment name = none)
    (hv : Text.strip v = v) :
    (∀ overrides, parseOverrides c.homes [f.name ++ "=" ++ v] = .ok overrides →
      ((f.kind = .path → ReadsOnce c.homes v) → ∀ p t s,
        ((load c p (overrides.map fun (f, given) => (f.name, given))).run t).result = .ok s ↔
          ((load (c.setting name v) p []).run t).result = .ok s) ∧
      (f.kind = .path → ∃ q, (Path.ofString v).expand? c.homes = some q ∧ ∀ p t s,
        ((load c p (overrides.map fun (f, given) => (f.name, given))).run t).result = .ok s ↔
          Becomes c.homes (.path q) f.kind (s f) ∧
            ∃ s', ((load (c.setting name v) p []).run t).result = .ok s' ∧
              ∀ h ≠ f, s h = s' h)) ∧
    (c.homes.All (fun home => home.root ≠ .relative) → ReadsOnce c.homes v) ∧
    ∀ what, f.kind = .whole ∧ what = "integer" ∨ f.kind = .real ∧ what = "float" →
      ((∃ fault, parseOverrides c.homes [f.name ++ "=" ++ v] = .error fault) ↔
        LeavesAside c name v what) := by
  have hnone := inEnvironment_of_unset hname hunset
  refine ⟨fun overrides hparse => ?_, fun hhomes => readsOnce_of_absolute hhomes v,
    fun what hwhat => ?_⟩
  · rw [parseOverrides_field f hv] at hparse
    obtain ⟨g, hread, rfl⟩ := map_eq_ok.1 hparse
    have hnull := isNull_of_readOverride hname hread
    by_cases hpath : f.kind = .path
    · have hvariable : readVariable f.kind v = .ok (.json (.str v)) := by
        rw [hpath]
        rfl
      obtain ⟨q, hq, rfl⟩ := readOverride_path.1 (hpath ▸ hread)
      refine ⟨fun honce p t s => ?_, fun _ => ⟨q, hq, fun p t s => ?_⟩⟩
      · have hsame := (honce hpath).becomes_iff hq hpath (x := s f)
        exact (load_override_iff hnone hnull).trans
          ((and_congr_left' hsame).trans (load_variable_iff hname hvariable).symm)
      · refine load_override_iff_variable hname hnone hnull hvariable ?_
        rw [hpath]
        exact ⟨q, _, .inr ⟨v, rfl, rfl⟩, hq⟩
    · have hvariable := readVariable_of_readOverride hpath (kind_of_variable hname) hread
      refine ⟨fun _ p t s => ?_, fun h => absurd h hpath⟩
      exact (load_override_iff hnone hnull).trans (load_variable_iff hname hvariable).symm
  · rw [leavesAside_iff hname hunset, parseOverrides_field f hv]
    exact (exists_congr fun fault => map_eq_error).trans (readOverride_error_iff hwhat)

theorem elsewhere_withModels (models : Path) :
    Elsewhere wandering ⟨.absolute, ["s.json"]⟩ {} .modelsDir (withModels models) := by
  refine ⟨[], rfl, usable_nothing, fun h hne => ?_⟩
  cases h
  case modelsDir => exact absurd rfl hne
  all_goals exact rfl

theorem load_override_variable_wandering :
    ((load (wandering.setting "BLESSNET_LLM_MODELS_DIR" "~/m") ⟨.absolute, ["s.json"]⟩ []).run
      {}).result = .ok (withModels ⟨.relative, ["m"]⟩) ∧
    LeavesAside wandering "BLESSNET_LLM_PORT" "80 80" "integer" := by
  constructor
  · obtain ⟨hsame, -⟩ := (load_override_variable wandering .modelsDir "BLESSNET_LLM_MODELS_DIR"
      "~/m" (by decide) rfl (by decide)).1 [(.modelsDir, .path ⟨.relative, ["m"]⟩)] rfl
    refine (hsame ?_ _ _ _).1 ((load_override_iff (f := .modelsDir) rfl rfl).2
      ⟨⟨_, .inl rfl, rfl⟩, elsewhere_withModels _⟩)
    rintro - q hq
    cases hq
    rfl
  · obtain ⟨-, -, hnumber⟩ := load_override_variable wandering .port "BLESSNET_LLM_PORT" "80 80"
      (by decide) rfl (by decide)
    exact (hnumber "integer" (.inl ⟨rfl, rfl⟩)).1 ⟨_, rfl⟩

/-- A mark behind a home that is where one is comes to stand in front, and the command line takes it
for a home again, where the variable does not. -/
theorem load_override_reread :
    parseOverrides wandering.homes ["models_dir=~/~root"] =
      .ok [(.modelsDir, .path ⟨.relative, ["~root"]⟩)] ∧
    ((load wandering ⟨.absolute, ["s.json"]⟩
      [("models_dir", .path ⟨.relative, ["~root"]⟩)]).run {}).result =
        .ok (withModels ⟨.absolute, ["root"]⟩) ∧
    ((load (wandering.setting "BLESSNET_LLM_MODELS_DIR" "~/~root") ⟨.absolute, ["s.json"]⟩ []).run
      {}).result = .ok (withModels ⟨.relative, ["~root"]⟩) ∧
    withModels ⟨.absolute, ["root"]⟩ ≠ withModels ⟨.relative, ["~root"]⟩ := by
  refine ⟨rfl, ?_, ?_, ?_⟩
  · exact (load_override_iff (f := .modelsDir) rfl rfl).2
      ⟨⟨_, .inl rfl, rfl⟩, elsewhere_withModels _⟩
  · exact (load_variable_iff (f := .modelsDir) (by decide) rfl).2
      ⟨⟨_, .inr ⟨_, rfl, rfl⟩, rfl⟩, elsewhere_withModels _⟩
  · intro h
    exact absurd (congrFun h .modelsDir) (by decide)

end ChatHost.Settings
