import ChatHost.Proofs.Settings.Saved
import ChatHost.Proofs.Settings.Sources

set_option autoImplicit false

/-!
Settings that are saved and loaded again come back as they were, but for the order of the members of
objects in them. A path that starts with a mark for a home directory is the exception, since it is
read as another one.
-/

namespace ChatHost.Settings

variable {homes : Path.Homes} {g : Given} {k : Field.Kind} {s : Settings}

def inOrder : (k : Field.Kind) → k.Value → k.Value
  | .path, p => p
  | .names, xs => Json.sortedItems xs
  | .text, v | .whole, v | .real, v | .flag, v => v.sorted

theorem inOrder_inOrder (v : k.Value) : inOrder k (inOrder k v) = inOrder k v := by
  cases k with
  | path => rfl
  | names => exact Json.sortedItems_sortedItems v
  | text | whole | real | flag => exact Json.sorted_sorted v

theorem IsTyped.inOrder {v : k.Value} (h : IsTyped k v) : inOrder k v = v := by
  cases k with
  | path => rfl
  | names =>
    obtain ⟨ss, rfl⟩ := h
    induction ss with
    | nil => rfl
    | cons s ss ih => exact congrArg (Json.str s :: ·) ih
  | whole =>
    obtain ⟨n, rfl, -⟩ := h
    rfl
  | text | real | flag =>
    obtain ⟨x, rfl⟩ := h
    rfl

theorem IsScalar.inOrder {v : k.Value} (hg : IsScalar g) (h : Becomes homes g k v) :
    inOrder k v = v := by
  cases k with
  | path => rfl
  | names =>
    rcases h with rfl | ⟨s, -, rfl⟩ | ⟨members, rfl, -⟩
    · cases hg
    · rfl
    · cases hg
  | text | whole | real | flag =>
    rw [show v = g.toJson from h]
    cases hg <;> rfl

/-- Settings with the members of the objects in them in order. -/
def ordered (s : Settings) : Settings :=
  fun f => inOrder f.kind (s f)

/-- Whether two settings differ at most in the order of the members of objects in them. -/
def Alike (s s' : Settings) : Prop :=
  s.ordered = s'.ordered

theorem alike_ordered (s : Settings) : Alike s.ordered s :=
  funext fun f => inOrder_inOrder (s f)

theorem ordered_of_isTyped (h : ∀ f, IsTyped f.kind (s f)) : s.ordered = s :=
  funext fun f => (h f).inOrder

theorem IsKept.isRegular {v : k.Value} (h : IsKept k v) : (k.toJson v).IsRegular := by
  cases k with
  | path => trivial
  | names => exact h
  | text | whole | real | flag => exact h.1

theorem isRegular_toJson (h : ∀ f, IsKept f.kind (s f)) : s.toJson.IsRegular := by
  constructor
  · rw [OrderedMap.keys, List.map_map]
    exact (by decide : (Field.all.map Field.name).Nodup)
  · refine Json.membersRegular_iff.2 fun m hm => ?_
    obtain ⟨f, -, rfl⟩ := List.mem_map.1 hm
    exact (h f).isRegular

def savedMembers (s : Settings) : List (String × Json) :=
  Json.byKey (Json.sortedMembers (Field.all.map fun f => (f.name, f.kind.toJson (s f))))

theorem isRegular_savedMembers (h : ∀ f, IsKept f.kind (s f)) :
    (Json.obj (savedMembers s)).IsRegular :=
  (isRegular_toJson h).sorted

theorem IsKept.isNull_sorted {v : k.Value} (h : IsKept k v) :
    (k.toJson v).sorted.isNull = false := by
  cases k with
  | path => rfl
  | names => rfl
  | text | whole | real | flag =>
    obtain ⟨-, hnull⟩ := h
    cases v <;> first | rfl | exact absurd hnull (by decide)

/-- The file of saved settings gives each field its value. -/
theorem inEntries_saved (h : ∀ f, IsKept f.kind (s f)) (f : Field) :
    inEntries (fileEntries (savedMembers s)) f = some (.json (f.kind.toJson (s f)).sorted) := by
  have hmem : (f.name, (f.kind.toJson (s f)).sorted) ∈ savedMembers s := by
    rw [savedMembers, (Json.byKey_perm _).mem_iff, Json.sortedMembers_eq_map, List.map_map]
    exact List.mem_map.2 ⟨f, by cases f <;> decide, rfl⟩
  have hentry : (f.name, Given.json (f.kind.toJson (s f)).sorted) ∈ fileEntries (savedMembers s) :=
    List.mem_map.2 ⟨_, hmem, rfl⟩
  have hkeys : (OrderedMap.keys (fileEntries (savedMembers s))).Nodup := by
    rw [keys_fileEntries]
    exact (isRegular_savedMembers h).1
  rw [inEntries, (OrderedMap.get?_eq_some hkeys).2 hentry]
  exact if_pos (by simpa [Given.isNull] using (h f).isNull_sorted)

/-- What a saved value is loaded as: a path with a home directory in place of a mark. -/
def Restores (homes : Path.Homes) : (k : Field.Kind) → k.Value → k.Value → Prop
  | .path, p, q => p.expand? homes = some q
  | .names, xs, ys => ys = Json.sortedItems xs
  | .text, v, w | .whole, v, w | .real, v, w | .flag, v, w => w = v.sorted

theorem IsKept.becomes_iff {v w : k.Value} (h : IsKept k v) :
    Becomes homes (.json (k.toJson v).sorted) k w ↔ Restores homes k v w := by
  cases k with
  | path =>
    have hread : Path.ofString v.text = v := Path.ofString_text h
    constructor
    · rintro ⟨named, ⟨⟨⟩⟩ | ⟨text, htext, rfl⟩, hexpand⟩
      cases htext
      rw [hread] at hexpand
      exact hexpand
    · exact fun hexpand => ⟨v, .inr ⟨_, rfl, hread.symm⟩, hexpand⟩
  | names =>
    constructor
    · rintro (hitems | ⟨text, ⟨⟩, -⟩ | ⟨members, ⟨⟩, -⟩)
      cases hitems
      rfl
    · rintro rfl
      exact .inl rfl
  | text | whole | real | flag => exact Iff.rfl

theorem IsUnmarked.restores {v : k.Value} (h : IsUnmarked k v) :
    Restores homes k v (inOrder k v) := by
  cases k with
  | path => exact Path.expand?_of_unmarked h
  | _ => exact rfl

theorem holds_of_keeps {p : Path} {t : FileTree} (hkept : ∀ f, IsKept f.kind (s f))
    (ht : Keeps t p (Text.utf8 (fileText s))) : Holds t p (savedMembers s) :=
  holds_render (isRegular_savedMembers hkept) (some 2) ht.present ht.read

/-- What settings that a file keeps are loaded as. -/
theorem load_keeps_iff {c : Context} {p : Path} {t : FileTree} {s' : Settings}
    (hkept : ∀ f, IsKept f.kind (s f)) (ht : Keeps t p (Text.utf8 (fileText s))) :
    ((load c p []).run t).result = .ok s' ↔
      (∀ f, ∃ v, Restores c.homes f.kind (s f) v) ∧
        ∀ f, (∃ g, inEnvironment c.environment f = some g ∧ Becomes c.homes g f.kind (s' f)) ∨
          inEnvironment c.environment f = none ∧ Restores c.homes f.kind (s f) (s' f) := by
  have hkeys : (OrderedMap.keys ([] : List (String × Given))).Nodup := List.nodup_nil
  -- also a path that the environment replaces has to be one that can be read
  have husable : Usable c.homes (inEntries (fileEntries (savedMembers s))) ↔
      ∀ f, ∃ v, Restores c.homes f.kind (s f) v := by
    simp only [Usable, inEntries_saved hkept, Option.some.injEq, forall_eq', (hkept _).becomes_iff]
  have htakes (f : Field) : Takes c.homes (strongest c [] (savedMembers s) f)
      (standard c.homes.own f) (s' f) ↔
        (∃ g, inEnvironment c.environment f = some g ∧ Becomes c.homes g f.kind (s' f)) ∨
          inEnvironment c.environment f = none ∧ Restores c.homes f.kind (s f) (s' f) := by
    rw [strongest, inEntries_saved hkept]
    cases inEnvironment c.environment f with
    | none =>
      refine Iff.trans (hkept f).becomes_iff ?_
      simp
    | some g => simp [Takes]
  rw [load_ok_iff_strongest (readFile_of_holds (holds_of_keeps hkept ht)) hkeys, husable]
  refine and_congr_right fun _ => ?_
  refine ⟨fun h f => (htakes f).1 (h.2 f), fun h => ⟨usable_nothing, fun f => (htakes f).2 (h f)⟩⟩

/-- Settings that a file keeps come back, where no path in them has a mark in front and the
environment gives nothing else. -/
theorem load_of_keeps {c : Context} {p : Path} {t : FileTree} (hkept : ∀ f, IsKept f.kind (s f))
    (hunmarked : ∀ f, IsUnmarked f.kind (s f))
    (henvironment : Laid c.homes (inEnvironment c.environment) s s)
    (ht : Keeps t p (Text.utf8 (fileText s))) : ((load c p []).run t).result = .ok s.ordered := by
  refine (load_keeps_iff hkept ht).2 ⟨fun f => ⟨_, (hunmarked f).restores⟩, fun f => ?_⟩
  cases hgiven : inEnvironment c.environment f with
  | none => exact .inr ⟨rfl, (hunmarked f).restores⟩
  | some g =>
    have hf := henvironment f
    rw [hgiven] at hf
    refine .inl ⟨g, rfl, ?_⟩
    rw [ordered, (isScalar_inEnvironment hgiven).inOrder hf]
    exact hf

theorem save_ends_loading {c : Context} {p : Path} {t : FileTree} (ht : t.Rooted)
    (hp : Writable t p) (hkept : ∀ f, IsKept f.kind (s f))
    (hunmarked : ∀ f, IsUnmarked f.kind (s f))
    (henvironment : Laid c.homes (inEnvironment c.environment) s s) :
    (save p s).Ends t fun result t' => result = .ok p ∧ Keeps t' p (Text.utf8 (fileText s)) ∧
      ((load c p []).run t').result = .ok s.ordered := by
  refine (save_ends ht (isRegular_toJson hkept).isWritable hp).imp ?_
  rintro result t' ⟨hresult, -, hkeeps⟩
  exact ⟨hresult, hkeeps, load_of_keeps hkept hunmarked henvironment hkeeps⟩

/-- Settings of the types that they should have come back from a file as they were, whatever was
there before; so do settings that have been loaded, but for the order of the members of objects. -/
theorem save_load (c : Context) (p : Path) (t : FileTree) (ht : t.Rooted) (hp : Writable t p) :
    (∀ s, (∀ f, IsTyped f.kind (s f)) → (∀ f, IsUnmarked f.kind (s f)) →
      (∀ f, inEnvironment c.environment f = none) →
      (save p s).Ends t fun result t' => result = .ok p ∧ Keeps t' p (Text.utf8 (fileText s)) ∧
        ((load c p []).run t').result = .ok s) ∧
    (c.homes.All Path.IsNormal → ∀ (q : Path) (u : FileTree) (overrides : List (String × Given)) s,
      (OrderedMap.keys overrides).Nodup → (∀ entry ∈ overrides, entry.2.IsRegular) →
      ((load c q overrides).run u).result = .ok s →
      (∀ f, IsUnmarked f.kind (s f)) ∨ c.homes.All (fun home => home.root ≠ .relative) →
      (save p s).Ends t fun result t' => result = .ok p ∧ Keeps t' p (Text.utf8 (fileText s)) ∧
        ∃ s', ((load c p []).run t').result = .ok s' ∧ Alike s' s) ∧
    (c.homes.All Path.IsNormal → ∀ words given, parseOverrides c.homes words = .ok given →
      (OrderedMap.keys (given.map fun e => (e.1.name, e.2))).Nodup ∧
        ∀ entry ∈ given.map fun e => (e.1.name, e.2), entry.2.IsRegular) := by
  refine ⟨fun s htyped hunmarked henvironment => ?_, fun hhomes q u overrides s hkeys hregular hload
    hunmarked => ?_, fun hhomes words given => isRegular_parseOverrides hhomes⟩
  · have hempty : Laid c.homes (inEnvironment c.environment) s s := by
      intro f
      rw [henvironment]
      rfl
    have hends := save_ends_loading ht hp (fun f => (htyped f).isKept) hunmarked hempty
    rw [ordered_of_isTyped htyped] at hends
    exact hends
  · have hkept := isKept_of_load hkeys hload hhomes hregular
    have hfree : ∀ f, IsUnmarked f.kind (s f) :=
      hunmarked.elim id (isUnmarked_of_load hkeys hload)
    refine (save_ends_loading ht hp hkept hfree (environment_of_load hkeys hload)).imp ?_
    rintro result t' ⟨hresult, hkeeps, hreload⟩
    exact ⟨hresult, hkeeps, _, hreload, alike_ordered s⟩

def oneFile (content : Text.Bytes) : FileTree :=
  ({} : FileTree).put ["s.json"] (.file content FileTree.newFileMode)

theorem rooted_oneFile (content : Text.Bytes) : (oneFile content).Rooted := by
  refine (FileTree.rooted_empty.put (.file content FileTree.newFileMode) rfl (by decide) ?_).1
  intro hdirectory
  cases hdirectory

theorem writable_oneFile (content : Text.Bytes) :
    Writable (oneFile content) ⟨.absolute, ["s.json"]⟩ :=
  ⟨rfl, ⟨_, rfl⟩, _, rfl, ⟨_, rfl⟩⟩

theorem absolute_of {home : Path} (h : home.root ≠ .relative) :
    (Path.Homes.of home).All fun home => home.root ≠ .relative := by
  refine ⟨h, fun user found hfound => ?_⟩
  dsimp only [Path.Homes.of] at hfound
  split_ifs at hfound
  cases hfound
  decide

theorem isNormal_of {home : Path} (h : home.IsNormal) :
    (Path.Homes.of home).All Path.IsNormal := by
  refine ⟨h, fun user found hfound => ?_⟩
  dsimp only [Path.Homes.of] at hfound
  split_ifs at hfound
  cases hfound
  unfold Path.IsNormal
  decide

def guest : Path :=
  ⟨.absolute, ["home", "guest"]⟩

theorem save_load_guest :
    (save ⟨.absolute, ["s.json"]⟩ (standard guest)).Ends (oneFile []) (fun _ t' =>
      ((load ⟨.of guest, []⟩ ⟨.absolute, ["s.json"]⟩ []).run t').result = .ok (standard guest)) ∧
    ∃ s, ((load ⟨.of guest, []⟩ ⟨.absolute, ["s.json"]⟩
        [("host", .json (.obj [("b", .null), ("a", .null)]))]).run {}).result = .ok s ∧
      (save ⟨.absolute, ["s.json"]⟩ s).Ends (oneFile []) fun _ t' =>
        ∃ s', ((load ⟨.of guest, []⟩ ⟨.absolute, ["s.json"]⟩ []).run t').result = .ok s' ∧
          Alike s' s := by
  have hguest : guest.IsNormal := by
    unfold Path.IsNormal
    decide
  obtain ⟨htyped, hloaded, -⟩ := save_load ⟨.of guest, []⟩ ⟨.absolute, ["s.json"]⟩ (oneFile [])
    (rooted_oneFile []) (writable_oneFile [])
  constructor
  · refine (htyped _ (isTyped_standard hguest) (isUnmarked_standard (by decide)) ?_).imp ?_
    · intro f
      cases f <;> rfl
    · exact fun _ _ h => h.2.2
  · have hregular : ∀ entry ∈ [("host", Given.json (.obj [("b", .null), ("a", .null)]))],
        entry.2.IsRegular := by
      intro entry hentry
      cases List.mem_singleton.1 hentry
      exact ⟨by decide, trivial, trivial, trivial⟩
    exact ⟨_, rfl, (hloaded (isNormal_of hguest) ⟨.absolute, ["s.json"]⟩ {} _ _ (by decide) hregular
      rfl (.inr (absolute_of (by decide)))).imp fun _ _ h => h.2.2⟩

/-- Homes that are where one is, as far as they are known. -/
def wandering : Context where
  homes := .of ⟨.relative, []⟩

def withModels (p : Path) : Settings
  | .modelsDir => p
  | f => standard ⟨.relative, []⟩ f

/-- The standard settings with a port that is too long to be written. -/
def overlong : Settings
  | .port => Json.ofInt (10 ^ Decimal.digitLimit : Nat)
  | f => standard guest f

/-- A mark behind a home that is where one is comes to stand in front, and is then read as the home
that it names. A number that is too long is not saved. -/
theorem save_load_marked :
    (∃ t, ((load wandering ⟨.absolute, ["s.json"]⟩ []).run t).result =
        .ok (withModels ⟨.relative, ["~root"]⟩) ∧
      (save ⟨.absolute, ["s.json"]⟩ (withModels ⟨.relative, ["~root"]⟩)).Ends t fun _ t' =>
        ((load wandering ⟨.absolute, ["s.json"]⟩ []).run t').result =
          .ok (withModels ⟨.absolute, ["root"]⟩)) ∧
    withModels ⟨.absolute, ["root"]⟩ ≠ withModels ⟨.relative, ["~root"]⟩ ∧
    ((save ⟨.absolute, ["s.json"]⟩ overlong).run (oneFile [])).result =
      .error (.invalid Decimal.tooLong) := by
  have hkept : ∀ f, IsKept f.kind (withModels ⟨.relative, ["~root"]⟩ f) := by
    intro f
    have hown : Path.IsNormal ⟨.relative, []⟩ := fun _ h => absurd h List.not_mem_nil
    have hf := (isTyped_standard hown f).isKept
    cases f
    case modelsDir => exact Path.isNormal_ofString "~root"
    all_goals exact hf
  refine ⟨⟨oneFile (Text.utf8 ((Json.obj [("models_dir", .str "~/~root")]).render Json.compact)),
    ?_, ?_⟩, ?_, ?_⟩
  · have hregular : (Json.obj [("models_dir", .str "~/~root")]).IsRegular :=
      ⟨by decide, trivial, trivial⟩
    have hholds := holds_render hregular none (p := ⟨.absolute, ["s.json"]⟩)
      (t := oneFile (Text.utf8 ((Json.obj [("models_dir", .str "~/~root")]).render Json.compact)))
      rfl rfl
    refine (load_ok_iff_strongest (readFile_of_holds hholds) (by decide)).2 ⟨?_, usable_nothing, ?_⟩
    · refine usable_of_refusable fun f hf g hg => ?_
      fin_cases hf
      · exact ⟨_, _, .inr ⟨_, Option.some.inj hg.symm, rfl⟩, rfl⟩
      all_goals cases hg
    · intro f
      cases f
      case modelsDir => exact ⟨_, .inr ⟨_, rfl, rfl⟩, rfl⟩
      all_goals exact rfl
  · refine (save_ends (rooted_oneFile _) (isRegular_toJson hkept).isWritable
      (writable_oneFile _)).imp ?_
    rintro _ t' ⟨-, -, hkeeps⟩
    have hrest : ∀ f, Restores wandering.homes f.kind (withModels ⟨.relative, ["~root"]⟩ f)
        (withModels ⟨.absolute, ["root"]⟩ f) := by
      intro f
      cases f <;> rfl
    refine (load_keeps_iff hkept hkeeps).2 ⟨fun f => ⟨_, hrest f⟩, fun f => .inr ⟨?_, hrest f⟩⟩
    cases f <;> rfl
  · intro h
    exact absurd (congrFun h .modelsDir) (by decide)
  · have hport : overlong.toJson.isWritable = false := by
      rw [Bool.eq_false_iff]
      intro hwritable
      have hmember := Json.membersWritable_iff.1 hwritable
        ("port", .ofInt (10 ^ Decimal.digitLimit : Nat)) (List.mem_cons_of_mem _ List.mem_cons_self)
      have hlt := Json.isWritable_integer.1 hmember
      rw [Int.natAbs_natCast] at hlt
      exact absurd hlt (Nat.lt_irrefl _)
    rw [save, hport]
    rfl

end ChatHost.Settings
