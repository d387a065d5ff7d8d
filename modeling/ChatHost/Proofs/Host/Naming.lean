import ChatHost.Proofs.Host.Start
import Mathlib.Data.List.Nodup

set_option autoImplicit false

/-!
What a text names. The identifiers of the catalog are read in one way only; any other text names a
model at a URL or none at all, and then whoever asked is told the same for whatever reason.
-/

namespace ChatHost

namespace Model

/-- Whether a text is the identifier of a catalog entry, in a quantization if one is asked for. -/
inductive IsIdentifier (s : List Char) : CatalogEntry → Option String → Prop
  | plain (entry : CatalogEntry) (hentry : entry ∈ knownEntries) (hs : s = entry.name.toList) :
      IsIdentifier s entry none
  | marked (entry : CatalogEntry) (hentry : entry ∈ knownEntries) (mark : Char)
      (hmark : mark ∈ ['-', '_', '.']) (q : String) (hq : q ∈ quantizations)
      (hs : s = entry.name.toList ++ mark :: q.toList) : IsIdentifier s entry (some q)

def identifiers : List (List Char × CatalogEntry × Option String) :=
  knownEntries.flatMap fun entry => (entry.name.toList, entry, none) ::
    ['-', '_', '.'].flatMap fun mark => quantizations.map fun q =>
      (entry.name.toList ++ mark :: q.toList, entry, some q)

theorem IsIdentifier.mem {s : List Char} {entry : CatalogEntry} {q : Option String}
    (h : IsIdentifier s entry q) : (s, entry, q) ∈ identifiers := by
  rw [identifiers, List.mem_flatMap]
  refine ⟨entry, ?_⟩
  cases h with
  | plain hentry hs =>
    rw [hs]
    exact ⟨hentry, List.mem_cons_self⟩
  | marked hentry mark hmark q hq hs =>
    refine ⟨hentry, List.mem_cons_of_mem _ (List.mem_flatMap.2 ⟨mark, hmark, ?_⟩)⟩
    rw [hs]
    exact List.mem_map_of_mem hq

theorem nodup_identifiers : (identifiers.map Prod.fst).Nodup := by
  decide +kernel

/-- No text is an identifier in two ways. -/
theorem IsIdentifier.unique {s : List Char} {entry entry' : CatalogEntry} {q q' : Option String}
    (h : IsIdentifier s entry q) (h' : IsIdentifier s entry' q') : entry = entry' ∧ q = q' := by
  have hsame := List.inj_on_of_nodup_map nodup_identifiers h.mem h'.mem rfl
  exact Prod.mk.inj (Prod.mk.inj hsame).2

theorem quantizationAfter?_eq_some {s : List Char} {q : Option String}
    (h : quantizationAfter? s = some q) :
    s = [] ∧ q = none ∨ ∃ mark ∈ ['-', '_', '.'], ∃ p ∈ quantizations,
      s = mark :: p.toList ∧ q = some p := by
  cases s with
  | nil => exact .inl ⟨rfl, (Option.some.inj h).symm⟩
  | cons mark rest =>
    rw [quantizationAfter?] at h
    split_ifs at h with hmark
    obtain ⟨p, hp, rfl⟩ := Option.map_eq_some_iff.1 h
    have hrest := List.find?_some hp
    refine .inr ⟨mark, ?_, p, List.mem_of_find?_eq_some hp, ?_, rfl⟩
    · simpa [isQuantizationMark, or_assoc] using hmark
    · rw [of_decide_eq_true hrest]

theorem readAs?_eq_some {s : List Char} {entry : CatalogEntry} {m : Model}
    (hentry : entry ∈ knownEntries) (h : readAs? s entry = some m) :
    ∃ q, IsIdentifier s entry q ∧ m = .catalog entry q := by
  obtain ⟨q, hq, rfl⟩ := Option.map_eq_some_iff.1 h
  obtain ⟨rest, hrest, hafter⟩ := Option.bind_eq_some_iff.1 hq
  rw [behind?_eq_some] at hrest
  refine ⟨q, ?_, rfl⟩
  obtain ⟨rfl, rfl⟩ | ⟨mark, hmark, p, hp, rfl, rfl⟩ := quantizationAfter?_eq_some hafter
  · exact .plain entry hentry (hrest.trans (List.append_nil _))
  · exact .marked entry hentry mark hmark p hp hrest

theorem isCatalogIdentifier_iff (s : List Char) :
    IsCatalogIdentifier s ↔ ∃ entry q, IsIdentifier s entry q := by
  constructor
  · rintro ⟨entry, hentry, hs | ⟨mark, hmark, q, hq, hs⟩⟩
    · exact ⟨entry, none, .plain entry hentry hs⟩
    · refine ⟨entry, some q, .marked entry hentry mark ?_ q hq hs⟩
      simpa [isQuantizationMark, or_assoc] using hmark
  · rintro ⟨entry, q, h⟩
    refine ⟨entry, ?_⟩
    cases h with
    | plain hentry hs => exact ⟨hentry, .inl hs⟩
    | marked hentry mark hmark q hq hs =>
      refine ⟨hentry, .inr ⟨mark, ?_, q, hq, hs⟩⟩
      simpa [isQuantizationMark, or_assoc] using hmark

/-- The reading of a text as a catalog identifier is the one way in which it is one. -/
theorem ofCatalog?_eq_some (s : List Char) (m : Model) :
    ofCatalog? s = some m ↔ ∃ entry q, IsIdentifier s entry q ∧ m = .catalog entry q := by
  have hread {m : Model} (h : ofCatalog? s = some m) :
      ∃ entry q, IsIdentifier s entry q ∧ m = .catalog entry q := by
    obtain ⟨entry, hentry, hm⟩ := List.exists_of_findSome?_eq_some h
    exact ⟨entry, readAs?_eq_some hentry hm⟩
  refine ⟨hread, ?_⟩
  rintro ⟨entry, q, hs, rfl⟩
  have hsome := (ofCatalog?_isSome s).2 ((isCatalogIdentifier_iff s).2 ⟨entry, q, hs⟩)
  obtain ⟨m, hm⟩ := Option.isSome_iff_exists.1 hsome
  obtain ⟨entry', q', hs', rfl⟩ := hread hm
  obtain ⟨rfl, rfl⟩ := hs.unique hs'
  exact hm

theorem ofCatalog?_eq_none (s : List Char) :
    ofCatalog? s = none ↔ ∀ entry q, ¬ IsIdentifier s entry q := by
  rw [← Option.not_isSome_iff_eq_none, ofCatalog?_isSome, isCatalogIdentifier_iff]
  simp only [not_exists]

theorem choose_eq_catalog (policy : Policy) (text : String) (entry : CatalogEntry)
    (q : Option String) : choose policy text = .model (.catalog entry q) ↔
      IsIdentifier (Text.stripChars text.toList) entry q := by
  constructor
  · intro h
    rw [choose] at h
    split at h
    · rename_i m hread
      obtain ⟨entry', q', hs, rfl⟩ := (ofCatalog?_eq_some _ _).1 hread
      cases h
      exact hs
    · split at h <;> cases h
  · intro hs
    rw [choose, (ofCatalog?_eq_some _ _).2 ⟨entry, q, hs, rfl⟩]

theorem choose_of_not_identifier (policy : Policy) {text : String}
    (hnone : ∀ entry q, ¬ IsIdentifier (Text.stripChars text.toList) entry q) :
    choose policy text =
      match policy.checkUrl (Text.stripChars text.toList) with
      | .ok name => .model (.url (Text.strip text) (String.ofList name))
      | .error reason => .unsupported (Text.strip text) reason := by
  rw [choose, (ofCatalog?_eq_none _).2 hnone]
  rfl

end Model

namespace Host

variable {σ τ : Type}

def unsupported (candidate : String) : HostError :=
  ⟨.modelNotSupported, Model.unsupportedMessage candidate, none⟩

theorem chooseModel_run (env : Surroundings σ) (name : String) (h : Host σ) :
    (chooseModel env name).Ends h fun r v => v = h ∧
      r = match Model.choose env.policy name with
        | .model m => .ok m
        | .unsupported candidate _ => .error (.known (unsupported candidate)) := by
  refine Act.Ends.bind (p := fun _ v => v = h) rfl fun _ v hv => ?_
  subst hv
  cases Model.choose env.policy name with
  | model m => exact ⟨rfl, rfl⟩
  | unsupported candidate reason => exact ⟨rfl, rfl⟩

def Rejects (policy : Model.Policy) (text : String) : Prop :=
  (∀ entry q, ¬ Model.IsIdentifier (Text.stripChars text.toList) entry q) ∧
    ∃ reason, policy.checkUrl (Text.stripChars text.toList) = .error reason

/-- Where a text is rejected, nothing happens but that the error is told. -/
theorem setModel_rejected (env : Surroundings σ) {model : Input} {text : String}
    (htext : model.decode "model name" = .ok text) (hrejects : Rejects env.policy text)
    (check : Option (UrlCheck σ)) (h : Host σ) :
    (setModel env model check).Ends h fun r v =>
      r = .error (.known (unsupported (Text.strip text))) ∧ v = h := by
  obtain ⟨hnone, reason, hreason⟩ := hrejects
  have hchoose : (chooseModel env text).Ends h fun r v =>
      r = .error (.known (unsupported (Text.strip text))) ∧ v = h := by
    refine (chooseModel_run env text h).imp ?_
    rintro r v ⟨rfl, rfl⟩
    rw [Model.choose_of_not_identifier env.policy hnone, hreason]
    exact ⟨rfl, rfl⟩
  have hbegin : (beginStart env model check).Ends h fun r v =>
      r = .error (.known (unsupported (Text.strip text))) ∧ v = h := by
    unfold beginStart
    rw [htext]
    refine hchoose.andThen ?_ ?_
    · rintro m v ⟨hr, -⟩
      cases hr
    · rintro e v ⟨hr, rfl⟩
      cases hr
      exact ⟨rfl, rfl⟩
  refine hbegin.andThen ?_ ?_
  · rintro s v ⟨hr, -⟩
    cases hr
  · rintro e v ⟨hr, rfl⟩
    cases hr
    exact ⟨rfl, rfl⟩

/-- A text names an entry of the catalog, in a quantization or in none, just when it is an
identifier of it, in the only way in which it is one. Any other text names a model at a URL if the
policy accepts it as one, and else it is not supported; there is no other error. Two rejections of
one text, under whatever policies and for whatever reasons, tell the same and do nothing. -/
theorem chooseModel_names (env : Surroundings σ) (text : String) (h : Host σ) :
    let s := Text.stripChars text.toList
    let chosen := ((chooseModel env text).run h).result
    (∀ entry q, chosen = .ok (.catalog entry q) ↔ Model.IsIdentifier s entry q) ∧
      (∀ entry q entry' q', Model.IsIdentifier s entry q → Model.IsIdentifier s entry' q' →
        entry = entry' ∧ q = q') ∧
      ((∀ entry q, ¬ Model.IsIdentifier s entry q) →
        chosen = match env.policy.checkUrl s with
          | .ok name => .ok (.url (String.ofList s) (String.ofList name))
          | .error _ => .error (.known (unsupported (String.ofList s)))) ∧
      ∀ (other : Surroundings τ) (model model' : Input) (text' : String)
        (check : Option (UrlCheck (Noted Event σ))) (check' : Option (UrlCheck (Noted Event τ)))
        (g : Host (Noted Event σ)) (g' : Host (Noted Event τ)),
        Text.stripChars text'.toList = s → model.decode "model name" = .ok text →
        model'.decode "model name" = .ok text' → Rejects env.policy text →
        Rejects other.policy text' →
          ((setModel env.noted model check).run g).result =
              ((setModel other.noted model' check').run g').result ∧
            ((setModel env.noted model check).run g).world = g ∧
            ((setModel other.noted model' check').run g').world = g' := by
  dsimp only
  obtain ⟨-, hchosen⟩ := chooseModel_run env text h
  refine ⟨fun entry q => ?_, fun _ _ _ _ hs hs' => hs.unique hs', fun hnone => ?_, ?_⟩
  · rw [← Model.choose_eq_catalog env.policy, hchosen]
    cases Model.choose env.policy text with
    | model m => simp
    | unsupported candidate reason => simp
  · rw [hchosen, Model.choose_of_not_identifier env.policy hnone]
    cases env.policy.checkUrl (Text.stripChars text.toList) with
    | ok name => rfl
    | error reason => rfl
  · intro other model model' text' check check' g g' hsame hmodel hmodel' hrejects hrejects'
    obtain ⟨hr, hg⟩ := setModel_rejected env.noted hmodel hrejects check g
    obtain ⟨hr', hg'⟩ := setModel_rejected other.noted hmodel' hrejects' check' g'
    rw [hr, hr', Text.strip, Text.strip, hsame]
    exact ⟨rfl, hg, hg'⟩

/-- A URL that one policy rejects for its host, and another one for its extension. -/
theorem chooseModel_names_rejected :
    Rejects .standard " https://evil.com/m.llamafile" ∧
    Rejects ⟨["evil.com"], [".bin"]⟩ "https://evil.com/m.llamafile\n" ∧
    ((setModel Traffic.oneServer.noted (.text " https://evil.com/m.llamafile") none).run
        { world := ⟨(), []⟩ }).result =
      ((setModel { Traffic.oneServer.noted with policy := ⟨["evil.com"], [".bin"]⟩ }
        (.text "https://evil.com/m.llamafile\n") none).run { world := ⟨(), []⟩ }).result := by
  have hhost : Rejects .standard " https://evil.com/m.llamafile" :=
    ⟨(Model.ofCatalog?_eq_none _).1 (by decide +kernel), .host "evil.com".toList,
      by decide +kernel⟩
  have hextension : Rejects ⟨["evil.com"], [".bin"]⟩ "https://evil.com/m.llamafile\n" :=
    ⟨(Model.ofCatalog?_eq_none _).1 (by decide +kernel), .extension "m.llamafile".toList,
      by decide +kernel⟩
  exact ⟨hhost, hextension, ((chooseModel_names Traffic.oneServer _ { world := () }).2.2.2
    { Traffic.oneServer with policy := ⟨["evil.com"], [".bin"]⟩ } _ _ _ none none _ _
    (by decide +kernel) rfl rfl hhost hextension).1⟩

end Host

end ChatHost
