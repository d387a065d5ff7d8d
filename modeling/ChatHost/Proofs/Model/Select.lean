import ChatHost.Model.Select
import ChatHost.Proofs.Model.Policy
import ChatHost.Provider.Download
import ChatHost.Settings.Derived

set_option autoImplicit false

/-!
Which texts name a model at a URL, and where the file of such a model is kept: right below the
directory of models, whatever the text.
-/

namespace ChatHost

namespace Path

/-- Whether a path is right below a directory: what joining the name to the directory gives. -/
structure IsChild (dir : Path) (name : String) (p : Path) : Prop where
  joined : dir.join (ofString name) = p
  parent : p.parent = dir
  name : p.name? = some name

/-- A name without a slash that is not empty and not a dot is one component. -/
theorem ofString_of_component {name : String} (hslash : '/' ∉ name.toList)
    (hname : isComponent name.toList) : ofString name = ⟨.relative, [name]⟩ := by
  have hroot : Root.ofChars name.toList = .relative := by
    cases h : name.toList with
    | nil => rfl
    | cons c rest =>
      rw [h, List.mem_cons, not_or] at hslash
      have hc := hslash.1
      unfold Root.ofChars
      split <;> simp_all
  rw [ofString, ofChars, hroot, Text.pieces_of_not_mem hslash]
  simp [hname]

theorem isChild_child (dir : Path) {name : String} (hslash : '/' ∉ name.toList)
    (hname : isComponent name.toList) : dir.IsChild name (dir.child name) where
  joined := by rw [ofString_of_component hslash hname, join, child]
  parent := by simp [parent, child]
  name := by simp [name?, child]

end Path

namespace Model

/-- Whether a text is a catalog identifier: the name of an entry, perhaps with a mark and a
quantization behind it. -/
def IsCatalogIdentifier (s : List Char) : Prop :=
  ∃ entry ∈ knownEntries, s = entry.name.toList ∨
    ∃ mark, isQuantizationMark mark ∧ ∃ q ∈ quantizations, s = entry.name.toList ++ mark :: q.toList

theorem behind?_eq_some (p s rest : List Char) : behind? p s = some rest ↔ s = p ++ rest := by
  induction p generalizing s with
  | nil => simp [behind?]
  | cons c p ih =>
    cases s with
    | nil => simp [behind?]
    | cons d s =>
      rw [behind?]
      split_ifs with hc
      · rw [ih, hc, List.cons_append, List.cons.injEq, and_iff_right rfl]
      · simp [Ne.symm hc]

theorem quantizationAfter?_isSome (s : List Char) :
    (quantizationAfter? s).isSome ↔ s = [] ∨
      ∃ mark, isQuantizationMark mark ∧ ∃ q ∈ quantizations, s = mark :: q.toList := by
  cases s with
  | nil => simp [quantizationAfter?]
  | cons c rest =>
    rw [quantizationAfter?]
    split_ifs with hc
    · rw [Option.isSome_map, List.find?_isSome]
      constructor
      · rintro ⟨q, hq, hrest⟩
        exact .inr ⟨c, hc, q, hq, by rw [of_decide_eq_true hrest]⟩
      · rintro (h | ⟨mark, -, q, hq, h⟩)
        · cases h
        · exact ⟨q, hq, decide_eq_true (List.cons.inj h).2.symm⟩
    · simp [hc]

theorem ofCatalog?_isSome (s : List Char) : (ofCatalog? s).isSome ↔ IsCatalogIdentifier s := by
  rw [ofCatalog?, List.findSome?_isSome_iff, IsCatalogIdentifier]
  refine exists_congr fun entry => and_congr_right fun _ => ?_
  rw [readAs?, Option.isSome_map]
  constructor
  · intro h
    obtain ⟨q, hq⟩ := Option.isSome_iff_exists.1 h
    obtain ⟨rest, hrest, hq⟩ := Option.bind_eq_some_iff.1 hq
    rw [behind?_eq_some] at hrest
    rcases (quantizationAfter?_isSome rest).1 (by simp [hq]) with rfl | ⟨mark, hmark, q', hq', rfl⟩
    · exact .inl (by simpa using hrest)
    · exact .inr ⟨mark, hmark, q', hq', hrest⟩
  · intro h
    obtain ⟨rest, hs, hrest⟩ : ∃ rest, s = entry.name.toList ++ rest ∧
        (quantizationAfter? rest).isSome := by
      rcases h with rfl | ⟨mark, hmark, q, hq, rfl⟩
      · exact ⟨[], (List.append_nil _).symm, rfl⟩
      · exact ⟨_, rfl, (quantizationAfter?_isSome _).2 (.inr ⟨mark, hmark, q, hq, rfl⟩)⟩
    rw [(behind?_eq_some _ _ _).2 hs]
    exact hrest

theorem ofCatalog?_ne_url {s : List Char} {m : Model} (h : ofCatalog? s = some m)
    (address name : String) : m ≠ .url address name := by
  obtain ⟨entry, -, hread⟩ := List.exists_of_findSome?_eq_some h
  obtain ⟨q, -, rfl⟩ := Option.map_eq_some_iff.1 hread
  simp

theorem choose_eq_url (policy : Policy) (text address name : String) :
    choose policy text = .model (.url address name) ↔
      address.toList = Text.stripChars text.toList ∧ ¬ IsCatalogIdentifier address.toList ∧
        policy.checkUrl address.toList = .ok name.toList := by
  rw [← ofCatalog?_isSome, choose]
  constructor
  · intro h
    split at h
    · rename_i m hm
      exact absurd (Choice.model.inj h) (ofCatalog?_ne_url hm address name)
    · rename_i hnone
      split at h
      · rename_i fileName hcheck
        obtain ⟨rfl, rfl⟩ := Model.url.inj (Choice.model.inj h)
        simp only [String.toList_ofList]
        exact ⟨trivial, by simp [hnone], hcheck⟩
      · cases h
  · rintro ⟨haddress, hnone, hcheck⟩
    rw [Option.not_isSome_iff_eq_none] at hnone
    rw [← haddress, hnone, hcheck]
    simp only [String.ofList_toList]

theorem Policy.Accepts.isComponent {policy : Policy} {parts : Url.Parts} {name : List Char}
    (h : policy.Accepts parts name) : Path.isComponent name := by
  obtain ⟨s, ⟨hs, before, after, hpieces, -⟩, rfl⟩ := h.last
  have hmem : s ∈ Text.pieces '/' parts.path := by rw [hpieces]; simp
  simp [Path.isComponent, Url.percentDecode_ne_nil hs, (h.segments s hmem).1]

/-- A text names a model at a URL just when the text, blanks at its ends aside, is no catalog
identifier and a URL that the policy accepts. The file of the model, and the one in which it is
collected, are then right below the directory of models. -/
theorem choose_url (policy : Policy) (text address name : String) :
    (choose policy text = .model (.url address name) ↔
      address.toList = Text.stripChars text.toList ∧ ¬ IsCatalogIdentifier address.toList ∧
        ∃ parts, Url.split address.toList = .ok parts ∧ (∃ port, parts.port = .ok port) ∧
          policy.Accepts parts name.toList) ∧
      (choose policy text = .model (.url address name) → ∀ s : Settings,
        s.modelsDir.IsChild name (s.modelPath (.url address name)) ∧
          ∃ part, Downloader.partPath? (s.modelPath (.url address name)) = some part ∧
            s.modelsDir.IsChild (name ++ ".part") part) := by
  have hiff := choose_eq_url policy text address name
  rw [checkUrl_iff] at hiff
  refine ⟨hiff, fun hchoose s => ?_⟩
  obtain ⟨-, -, parts, -, -, haccepts⟩ := hiff.1 hchoose
  have hslash : '/' ∉ name.toList := fun hmem => (haccepts.safe '/' hmem).1 rfl
  have hpart : Path.isComponent (name ++ ".part").toList := by
    have hlong : name.toList ++ ".part".toList ≠ ['.'] := by
      intro h
      have hlength := congrArg List.length h
      simp at hlength
    simpa [Path.isComponent] using hlong
  refine ⟨Path.isChild_child _ hslash haccepts.isComponent,
    s.modelsDir.child (name ++ ".part"), ?_, Path.isChild_child _ ?_ hpart⟩
  · simp [Downloader.partPath?, Settings.modelPath, fileName, Path.name?, Path.child,
      Path.withName, Path.parent]
  · simpa using hslash

theorem choose_url_allowed :
    choose .standard " https://HF.co/a/b%20c.llamafile " =
        .model (.url "https://HF.co/a/b%20c.llamafile" "b c.llamafile") ∧
      (Settings.standard ⟨.absolute, ["root"]⟩).modelsDir.IsChild "b c.llamafile"
        ((Settings.standard ⟨.absolute, ["root"]⟩).modelPath
          (.url "https://HF.co/a/b%20c.llamafile" "b c.llamafile")) := by
  have hchoose : choose .standard " https://HF.co/a/b%20c.llamafile " =
      .model (.url "https://HF.co/a/b%20c.llamafile" "b c.llamafile") := by decide +kernel
  exact ⟨hchoose, ((choose_url _ _ _ _).2 hchoose _).1⟩

end Model

end ChatHost
