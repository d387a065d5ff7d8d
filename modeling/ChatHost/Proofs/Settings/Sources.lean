import ChatHost.Proofs.Path
import ChatHost.Proofs.Settings.Layers
import ChatHost.Settings.Override
import Mathlib.Data.List.Forall2

set_option autoImplicit false

/-!
What settings that come together from their sources are made of: values that can be written and read
back, never null, and paths in normal form.
-/

namespace ChatHost

section

variable {ε α β : Type} {f : α → Except ε β}

theorem map_eq_ok {g : α → β} {x : Except ε α} {y : β} :
    x.map g = .ok y ↔ ∃ a, x = .ok a ∧ g a = y := by
  cases x <;> simp [Except.map]

theorem map_eq_error {g : α → β} {x : Except ε α} {e : ε} : x.map g = .error e ↔ x = .error e := by
  cases x <;> simp [Except.map]

theorem mapM_eq_ok {xs : List α} {ys : List β} :
    xs.mapM f = .ok ys ↔ List.Forall₂ (fun x y => f x = .ok y) xs ys := by
  induction xs generalizing ys with
  | nil =>
    rw [List.mapM_nil, List.forall₂_nil_left_iff]
    exact ⟨fun h => (Except.ok.inj h).symm, fun h => h ▸ rfl⟩
  | cons x xs ih =>
    rw [List.mapM_cons, List.forall₂_cons_left_iff]
    constructor
    · intro h
      cases hx : f x with
      | error e =>
        rw [hx] at h
        cases h
      | ok y =>
        cases hxs : xs.mapM f with
        | error e =>
          rw [hx, hxs] at h
          cases h
        | ok rest =>
          rw [hx, hxs] at h
          cases h
          exact ⟨y, rest, rfl, ih.1 hxs, rfl⟩
    · rintro ⟨y, rest, hx, hrest, rfl⟩
      rw [hx, ih.2 hrest]
      rfl

/-- What is found opposite a place in a list. -/
theorem forall₂_middle {R : α → β → Prop} {xs : List α} {before after : List β} {y : β}
    (h : List.Forall₂ R xs (before ++ y :: after)) : ∃ before' x after',
      xs = before' ++ x :: after' ∧ R x y ∧ List.Forall₂ R after' after := by
  have hdrop := List.forall₂_drop_append xs before (y :: after) h
  obtain ⟨x, after', hx, hafter, hxs⟩ := List.forall₂_cons_right_iff.1 hdrop
  exact ⟨xs.take before.length, x, after', by rw [← hxs, List.take_append_drop], hx, hafter⟩

theorem forall₂_mem {R : α → β → Prop} {xs : List α} {ys : List β} (h : List.Forall₂ R xs ys)
    {x : α} (hx : x ∈ xs) : ∃ y ∈ ys, R x y := by
  obtain ⟨before, after, rfl⟩ := List.append_of_mem hx
  obtain ⟨before', y, after', rfl, hy, -⟩ := forall₂_middle h.flip
  exact ⟨y, by simp, hy⟩

theorem mem_of_mapM_ok {xs : List α} {ys : List β} (h : xs.mapM f = .ok ys) {y : β} (hy : y ∈ ys) :
    ∃ x ∈ xs, f x = .ok y :=
  forall₂_mem (mapM_eq_ok.1 h).flip hy

end

theorem Reading.whole_lt {s : String} {n : Int} (h : whole s = .ok n) :
    n.natAbs < 10 ^ Decimal.digitLimit := by
  unfold whole at h
  dsimp only at h
  split_ifs at h with _ hlimit _ hnegative
  all_goals
    cases h
    have hlt := Decimal.ofAscii_lt
      (withoutUnderscores ((sign (plain s.toList)).2.takeWhile isDigitOrUnderscore))
    have hle := Nat.pow_le_pow_right (n := 10) (by decide) (Nat.not_lt.1 hlimit)
    omega

namespace Settings

variable {homes : Path.Homes} {g : Given} {k : Field.Kind} {s : Settings}

/-- A value that settings can keep in a field of a kind: one that can be written and read back, and
that is not null. -/
def IsKept : (k : Field.Kind) → k.Value → Prop
  | .path, p => p.IsNormal
  | .names, xs => Json.AreRegular xs
  | .text, v | .whole, v | .real, v | .flag, v => v.IsRegular ∧ v.isNull = false

/-- A given value that can be written and read back. -/
def Given.IsRegular : Given → Prop
  | .json v => v.IsRegular
  | .path p => p.IsNormal

theorem Becomes.isKept {v : k.Value} (hhomes : homes.All Path.IsNormal) (hg : g.IsRegular)
    (hnull : g.isNull = false) (h : Becomes homes g k v) : IsKept k v := by
  have hplain : g.toJson.IsRegular ∧ g.toJson.isNull = false := by
    cases g with
    | json v => exact ⟨hg, hnull⟩
    | path p => exact ⟨trivial, rfl⟩
  cases k with
  | path =>
    obtain ⟨named, hnamed, hexpand⟩ := h
    refine Path.IsNormal.expand ?_ hhomes hexpand
    rcases hnamed with rfl | ⟨s, -, rfl⟩
    · exact hg
    · exact Path.isNormal_ofString s
  | names =>
    rcases h with rfl | ⟨s, -, rfl⟩ | ⟨members, -, rfl⟩
    · exact hg
    · exact ⟨trivial, trivial⟩
    · exact Json.areRegular_texts _
  | text | whole | real | flag =>
    rw [show v = g.toJson from h]
    exact hplain

/-- A value of the type that values of a kind should have; a whole number is not too long to be
written. -/
def IsTyped : (k : Field.Kind) → k.Value → Prop
  | .text, v => ∃ s, v = .str s
  | .whole, v => ∃ n : Int, v = .ofInt n ∧ n.natAbs < 10 ^ Decimal.digitLimit
  | .real, v => ∃ x, v = .ofReal x
  | .flag, v => ∃ b, v = .bool b
  | .path, p => p.IsNormal
  | .names, xs => ∃ ss : List String, xs = ss.map .str

theorem IsTyped.isKept {v : k.Value} (h : IsTyped k v) : IsKept k v := by
  cases k with
  | path => exact h
  | names =>
    obtain ⟨ss, rfl⟩ := h
    exact Json.areRegular_texts ss
  | whole =>
    obtain ⟨n, rfl, hn⟩ := h
    exact ⟨hn, rfl⟩
  | text | real | flag =>
    obtain ⟨x, rfl⟩ := h
    exact ⟨trivial, rfl⟩

theorem isTyped_standard {own : Path} (hown : own.IsNormal) (f : Field) :
    IsTyped f.kind (standard own f) := by
  have hbase : (baseDir own).IsNormal := hown.child (by decide)
  have hlimit : 1024 * 1024 < 10 ^ Decimal.digitLimit := by decide +kernel
  cases f with
  | modelsDir => exact hbase.child (by decide)
  | logDir => exact hbase.child (by decide)
  | allowedModelHosts => exact ⟨["huggingface.co", "hf.co"], rfl⟩
  | allowedModelExtensions => exact ⟨[".llamafile"], rfl⟩
  | port | maxRetries | downloadChunkSize | logMaxBytes | logBackupCount =>
    exact ⟨_, rfl, lt_of_le_of_lt (by decide) hlimit⟩
  | _ => exact ⟨_, rfl⟩

/-- A value that is no path with a mark for a home directory in front. -/
def IsUnmarked : (k : Field.Kind) → k.Value → Prop
  | .path, p => ¬ p.IsMarked
  | _, _ => True

/-- Where homes do not depend on where one is, what is given becomes no path with a mark. -/
theorem Becomes.isUnmarked {v : k.Value} (hhomes : homes.All fun home => home.root ≠ .relative)
    (h : Becomes homes g k v) : IsUnmarked k v := by
  cases k with
  | path =>
    obtain ⟨named, -, hexpand⟩ := h
    exact Path.expand?_unmarked hhomes hexpand
  | _ => trivial

theorem isUnmarked_standard {own : Path} (hown : own.root ≠ .relative) (f : Field) :
    IsUnmarked f.kind (standard own f) := by
  cases f with
  | modelsDir | logDir => exact fun hmarked => hown hmarked.1
  | _ => trivial

/-- A value that has no other values in it. -/
inductive IsScalar : Given → Prop
  | text (s : String) : IsScalar (.json (.str s))
  | whole {n : Int} (h : n.natAbs < 10 ^ Decimal.digitLimit) : IsScalar (.json (.ofInt n))
  | real (x : Float) : IsScalar (.json (.ofReal x))
  | flag (b : Bool) : IsScalar (.json (.bool b))

theorem IsScalar.isRegular (h : IsScalar g) : g.IsRegular ∧ g.isNull = false := by
  cases h with
  | text s => exact ⟨trivial, rfl⟩
  | whole h => exact ⟨h, rfl⟩
  | real x => exact ⟨trivial, rfl⟩
  | flag b => exact ⟨trivial, rfl⟩

theorem isScalar_readVariable {text : String} (h : readVariable k text = .ok g) : IsScalar g := by
  unfold readVariable at h
  cases k with
  | whole =>
    cases hread : Reading.whole text with
    | error e => simp [hread, Except.map, Except.mapError] at h
    | ok n =>
      rw [hread] at h
      cases h
      exact .whole (Reading.whole_lt hread)
  | real =>
    cases hread : Reading.real text with
    | error e => simp [hread, Except.map, Except.mapError] at h
    | ok x =>
      rw [hread] at h
      cases h
      exact .real x
  | flag =>
    cases h
    exact .flag _
  | text | path | names =>
    cases h
    exact .text text

theorem isScalar_inEnvironment {env : Environment} {f : Field} (h : inEnvironment env f = some g) :
    IsScalar g := by
  obtain ⟨name, -, hgives⟩ := Option.bind_eq_some_iff.1 h
  split at hgives
  · rename_i hread
    cases hgives
    obtain ⟨text, -, htext⟩ := Option.map_eq_some_iff.1 hread
    exact isScalar_readVariable htext
  · cases hgives

theorem mem_of_inEntries {entries : List (String × Given)} {f : Field}
    (h : inEntries entries f = some g) : (f.name, g) ∈ entries ∧ g.isNull = false := by
  obtain ⟨hget, hnull⟩ := Option.filter_eq_some_iff.1 h
  exact ⟨OrderedMap.mem_of_get? hget, by simpa using hnull⟩

theorem isRegular_of_mem_fileEntries {members : List (String × Json)} {entry : String × Given}
    (hmembers : (Json.obj members).IsRegular) (h : entry ∈ fileEntries members) :
    entry.2.IsRegular := by
  obtain ⟨member, hmember, rfl⟩ := List.mem_map.1 h
  exact Json.membersRegular_iff.1 hmembers.2 member hmember

/-- What the strongest source gives for a field can be written and read back, when this is so of
what the caller gives. -/
theorem isRegular_strongest {c : Context} {overrides : List (String × Given)}
    {members : List (String × Json)} {f : Field} (hmembers : (Json.obj members).IsRegular)
    (hoverrides : ∀ entry ∈ overrides, entry.2.IsRegular)
    (h : strongest c overrides members f = some g) : g.IsRegular ∧ g.isNull = false := by
  rcases Option.or_eq_some_iff.1 h with henvironment | ⟨-, hbelow⟩
  · exact (isScalar_inEnvironment henvironment).isRegular
  · rcases Option.or_eq_some_iff.1 hbelow with hcaller | ⟨-, hfile⟩
    · obtain ⟨hmem, hnull⟩ := mem_of_inEntries hcaller
      exact ⟨hoverrides _ hmem, hnull⟩
    · obtain ⟨hmem, hnull⟩ := mem_of_inEntries hfile
      exact ⟨isRegular_of_mem_fileEntries hmembers hmem, hnull⟩

section

variable {c : Context} {p : Path} {overrides : List (String × Given)} {t : FileTree}
  (hkeys : (OrderedMap.keys overrides).Nodup) (h : ((load c p overrides).run t).result = .ok s)
include hkeys h

theorem laid_of_load : ∃ members, (Json.obj members).IsRegular ∧
    Laid c.homes (strongest c overrides members) (standard c.homes.own) s := by
  obtain ⟨members, hmembers, -⟩ := (load_ok_iff hkeys).1 h
  exact ⟨members, isRegular_of_readFile hmembers, ((load_ok_iff_strongest hmembers hkeys).1 h).2.2⟩

/-- What holds of the standard values and of what given values become holds of what has been
loaded. -/
theorem field_of_load {P : (k : Field.Kind) → k.Value → Prop}
    (hstandard : ∀ f, P f.kind (standard c.homes.own f))
    (hgiven : ∀ members, (Json.obj members).IsRegular → ∀ f g v,
      strongest c overrides members f = some g → Becomes c.homes g f.kind v → P f.kind v)
    (f : Field) : P f.kind (s f) := by
  obtain ⟨members, hmembers, hlaid⟩ := laid_of_load hkeys h
  have hf := hlaid f
  cases hstrongest : strongest c overrides members f with
  | none =>
    rw [hstrongest] at hf
    rw [show s f = standard c.homes.own f from hf]
    exact hstandard f
  | some g =>
    rw [hstrongest] at hf
    exact hgiven members hmembers f g _ hstrongest hf

theorem isKept_of_load (hhomes : c.homes.All Path.IsNormal)
    (hoverrides : ∀ entry ∈ overrides, entry.2.IsRegular) (f : Field) : IsKept f.kind (s f) := by
  refine field_of_load hkeys h (fun f => (isTyped_standard hhomes.1 f).isKept) ?_ f
  intro members hmembers f g v hstrongest hbecomes
  obtain ⟨hregular, hnull⟩ := isRegular_strongest hmembers hoverrides hstrongest
  exact hbecomes.isKept hhomes hregular hnull

theorem isUnmarked_of_load (hhomes : c.homes.All fun home => home.root ≠ .relative) (f : Field) :
    IsUnmarked f.kind (s f) := by
  refine field_of_load hkeys h (isUnmarked_standard hhomes.1) ?_ f
  exact fun _ _ _ _ _ _ hbecomes => hbecomes.isUnmarked hhomes

/-- What the environment gave when settings were loaded is what the settings have. -/
theorem environment_of_load : Laid c.homes (inEnvironment c.environment) s s := by
  obtain ⟨members, -, hlaid⟩ := laid_of_load hkeys h
  intro f
  have hf := hlaid f
  cases hgiven : inEnvironment c.environment f with
  | none => exact rfl
  | some g =>
    rw [strongest, hgiven] at hf
    exact hf

end

theorem isRegular_readOverride {text : String} (hhomes : homes.All Path.IsNormal)
    (h : readOverride homes text k = .ok g) : g.IsRegular := by
  unfold readOverride at h
  cases k with
  | text =>
    cases h
    trivial
  | whole =>
    obtain ⟨n, hread, rfl⟩ := map_eq_ok.1 h
    exact Reading.whole_lt hread
  | real | flag =>
    obtain ⟨x, -, rfl⟩ := map_eq_ok.1 h
    trivial
  | path =>
    obtain ⟨p, hread, rfl⟩ := map_eq_ok.1 h
    have hp : IsKept .path p := Becomes.isKept (g := .json (.str text)) hhomes trivial rfl
      (readPath_ok_iff.1 hread)
    exact hp
  | names =>
    cases h
    exact Json.areRegular_texts _

/-- What a command line gives can be written and read back. -/
theorem isRegular_parseOverrides {words : List String} {given : OrderedMap Field Given}
    (hhomes : homes.All Path.IsNormal) (h : parseOverrides homes words = .ok given) :
    (OrderedMap.keys (given.map fun e => (e.1.name, e.2))).Nodup ∧
      ∀ entry ∈ given.map fun e => (e.1.name, e.2), entry.2.IsRegular := by
  obtain ⟨parsed, hparsed, rfl⟩ := map_eq_ok.1 h
  constructor
  · have hkeys := OrderedMap.nodup_keys_ofList parsed
    have hnames := hkeys.map fun f g hfg => Field.name_inj.1 hfg
    rw [OrderedMap.keys, List.map_map] at hnames ⊢
    exact hnames
  · intro entry hentry
    obtain ⟨pair, hpair, rfl⟩ := List.mem_map.1 hentry
    obtain ⟨word, -, hword⟩ := mem_of_mapM_ok hparsed (OrderedMap.mem_of_mem_ofList hpair)
    unfold parseOverride at hword
    split at hword
    · cases hword
    · dsimp only at hword
      split_ifs at hword
      split at hword
      · cases hword
      · obtain ⟨g, hread, hpair⟩ := map_eq_ok.1 hword
        cases hpair
        exact isRegular_readOverride hhomes hread

end Settings
end ChatHost
