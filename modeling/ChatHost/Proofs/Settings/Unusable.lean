import ChatHost.Proofs.Json.Overlong
import ChatHost.Proofs.Settings.Restore

set_option autoImplicit false

/-!
A settings file that holds no object. Where its bytes are a text whose numbers can all be read, it
counts as no file at all; where they are not, loading fails by a fault of the file.
-/

namespace ChatHost.Settings

def HoldsObject (content : Text.Bytes) : Prop :=
  ∃ text members, content = Text.encodeUtf8 text ∧
    Json.parseChars (unifyLineEnds text) = .ok (.obj members)

/-- What comes of bytes that are not the text of an object, in place of what comes of no bytes. A
text is ignored unless it has a number that is too long to be read. -/
inductive Unusable {α : Type} (content : Text.Bytes) (absent : Except Fault α) :
    Except Fault α → Prop
  | ignored (text : List Char) (htext : content = Text.encodeUtf8 text)
      (hread : ∀ count, Json.parseChars (unifyLineEnds text) ≠ .error (.tooManyDigits count)) :
      Unusable content absent absent
  | undecodable (f : Text.DecodeFault) (hbytes : ∀ text, content ≠ Text.encodeUtf8 text)
      (hdecode : Text.decodeUtf8 content = .error f) :
      Unusable content absent (.error (.undecodable f))
  | overlong (text : List Char) (count : Nat) (htext : content = Text.encodeUtf8 text)
      (hread : Json.parseChars (unifyLineEnds text) = .error (.tooManyDigits count))
      (hdigits : Json.Overlong text count) :
      Unusable content absent (.error (.tooManyDigits count))

theorem prefix_of_unifyLineEnds {digits s : List Char} (hdigits : '\n' ∉ digits)
    (h : digits <+: unifyLineEnds s) : digits <+: s := by
  induction digits generalizing s with
  | nil => exact List.nil_prefix
  | cons d digits ih =>
    obtain ⟨hd, hdigits⟩ := not_or.1 (mt List.mem_cons.2 hdigits)
    unfold unifyLineEnds at h
    split at h
    · exact absurd (List.cons_prefix_cons.1 h).1.symm hd
    · exact absurd (List.cons_prefix_cons.1 h).1.symm hd
    · obtain ⟨rfl, hrest⟩ := List.cons_prefix_cons.1 h
      exact List.cons_prefix_cons.2 ⟨rfl, ih hdigits hrest⟩
    · exact h

theorem suffix_of_unifyLineEnds {t s : List Char} (h : t <:+ unifyLineEnds s) :
    ∃ s', s' <:+ s ∧ t = unifyLineEnds s' := by
  -- what has one line end in front ends with what the text behind it is made
  have hcons (c : Char) (front rest : List Char)
      (hfront : unifyLineEnds (front ++ rest) = c :: unifyLineEnds rest)
      (h : t <:+ unifyLineEnds (front ++ rest))
      (ih : t <:+ unifyLineEnds rest → ∃ s', s' <:+ rest ∧ t = unifyLineEnds s') :
      ∃ s', s' <:+ front ++ rest ∧ t = unifyLineEnds s' := by
    rw [hfront, List.suffix_cons_iff, ← hfront] at h
    rcases h with rfl | h
    · exact ⟨_, List.suffix_rfl, rfl⟩
    · obtain ⟨s', hs', rfl⟩ := ih h
      exact ⟨s', hs'.trans (List.suffix_append front rest), rfl⟩
  induction s using unifyLineEnds.induct with
  | case1 rest ih => exact hcons '\n' ['\r', '\n'] rest (unifyLineEnds.eq_1 rest) h ih
  | case2 rest hrest ih => exact hcons '\n' ['\r'] rest (unifyLineEnds.eq_2 rest hrest) h ih
  | case3 c rest hrest hc ih => exact hcons c [c] rest (unifyLineEnds.eq_3 c rest hrest hc) h ih
  | case4 => exact ⟨_, List.suffix_rfl, List.suffix_nil.1 h⟩

/-- A run of digits of the text with its line ends made alike is in the text as it was. -/
theorem overlong_of_unifyLineEnds {text : List Char} {count : Nat}
    (h : Json.Overlong (unifyLineEnds text) count) : Json.Overlong text count := by
  obtain ⟨hlimit, digits, hinfix, hlength, hdigits⟩ := h
  have hline : '\n' ∉ digits := fun hmem => absurd (hdigits _ hmem) (by decide)
  obtain ⟨t, hprefix, hsuffix⟩ := List.infix_iff_prefix_suffix.1 hinfix
  obtain ⟨s, hs, rfl⟩ := suffix_of_unifyLineEnds hsuffix
  exact ⟨hlimit, digits, (prefix_of_unifyLineEnds hline hprefix).isInfix.trans hs.isInfix, hlength,
    hdigits⟩

theorem membersOf_ends {σ : Type} {content : Text.Bytes} (h : ¬ HoldsObject content) (p : Path)
    (w : σ) :
    (membersOf p content).Ends w fun result v => v = w ∧ Unusable content (.ok []) result := by
  unfold membersOf
  cases hdecode : Text.decodeUtf8 content with
  | error f =>
    refine ⟨rfl, .undecodable f (fun text htext => ?_) hdecode⟩
    rw [Text.decodeUtf8_eq_ok.2 htext] at hdecode
    cases hdecode
  | ok text =>
    have htext := Text.decodeUtf8_eq_ok.1 hdecode
    have hignored (hread : ∀ count,
        Json.parseChars (unifyLineEnds text) ≠ .error (.tooManyDigits count)) :
        Unusable content (.ok []) (.ok [] : Except Fault (List (String × Json))) :=
      .ignored text htext hread
    dsimp only
    split
    · rename_i count hread
      exact ⟨rfl, .overlong text count htext hread
        (overlong_of_unifyLineEnds (Json.overlong_of_parseChars hread))⟩
    · rename_i e he hread
      refine ⟨rfl, hignored fun count hcount => ?_⟩
      rw [hread] at hcount
      exact he count (Except.error.inj hcount)
    · rename_i members hread
      exact absurd ⟨text, members, htext, hread⟩ h
    · rename_i v hv hread
      refine ⟨rfl, hignored fun count hcount => ?_⟩
      rw [hread] at hcount
      cases hcount

theorem present_of_read {t : FileTree} {p : Path} {content : Text.Bytes}
    (h : t.read p = .ok content) : t.present p = .ok true := by
  unfold FileTree.read at h
  unfold FileTree.present
  cases hstat : t.stat p with
  | error e =>
    rw [hstat] at h
    cases h
  | ok node => rfl

theorem readFile_of_read {t : FileTree} {p : Path} {content : Text.Bytes}
    {q : Except Fault (List (String × Json)) → FileTree → Prop} (hread : t.read p = .ok content)
    (h : (membersOf p content).Ends t q) : (readFile p).Ends t q := by
  unfold readFile
  have hfound : (Act.read fun t : FileTree => t.present p).Ends t fun found v =>
      found = .ok true ∧ v = t := ⟨present_of_read hread, rfl⟩
  have hcontent : (Act.read fun t : FileTree => t.read p).Ends t fun found v =>
      found = .ok content ∧ v = t := ⟨hread, rfl⟩
  refine hfound.bind ?_
  rintro _ _ ⟨rfl, rfl⟩
  refine hcontent.bind ?_
  rintro _ _ ⟨rfl, rfl⟩
  exact h

/-- Whether a step comes to a result in every world, and leaves the world as it is. -/
def Settles {σ α : Type} (a : Act σ α) (x : α) : Prop :=
  ∀ w, a.Ends w fun result v => v = w ∧ result = x

theorem closed_settles (σ : Type) : Act.Closed fun α (a : Act σ α) => ∃ x, Settles a x where
  pure x := ⟨x, fun _ => ⟨rfl, rfl⟩⟩
  write _ := ⟨(), fun _ => ⟨rfl, rfl⟩⟩
  bind := by
    rintro α β a f ⟨x, ha⟩ hf
    obtain ⟨y, hy⟩ := hf x
    refine ⟨y, fun w => (ha w).bind ?_⟩
    rintro _ _ ⟨rfl, rfl⟩
    exact hy _

section

variable {σ : Type} (homes : Path.Homes) (source : String) (s : Settings)

theorem settles_apply (given : OrderedMap Field Given) :
    ∃ x, Settles (apply homes source given s : Act σ _) x := by
  unfold apply
  split
  · exact (closed_settles σ).pure _
  · split
    · exact (closed_settles σ).pure _
    · exact (closed_settles σ).bind ((closed_settles σ).write _) fun _ => (closed_settles σ).pure _

theorem settles_applyEntries (entries : List (String × Given)) :
    ∃ x, Settles (applyEntries homes source entries s : Act σ _) x :=
  (closed_settles σ).bind
    ((closed_settles σ).bind ((closed_settles σ).write _) fun _ => (closed_settles σ).pure _)
    fun given => settles_apply homes source s given

theorem settles_applyEnvironment (env : Environment) :
    ∃ x, Settles (applyEnvironment homes env s : Act σ _) x :=
  (closed_settles σ).bind ((closed_settles σ).write _) fun _ => settles_apply homes _ s _

end

/-- A file that does not hold the text of an object counts as no file, unless its bytes are no text
or the text has a number that is too long: then loading fails with just this fault. How deep JSON
nests is not bounded here. -/
theorem load_unusable (c : Context) (p : Path) (overrides : List (String × Given))
    (t t' : FileTree) (content : Text.Bytes) (hread : t.read p = .ok content)
    (hcontent : ¬ HoldsObject content) (hgone : t'.present p = .ok false) :
    (load c p overrides).Ends t fun result v => v = t ∧
      Unusable content ((load c p overrides).run t').result result := by
  obtain ⟨x, hx⟩ : ∃ x, Settles
      ((applyEntries c.homes "file" [] (standard c.homes.own)).andThen fun s =>
        (applyEntries c.homes "CLI" overrides s).andThen fun s =>
        (applyEnvironment c.homes c.environment s : Act FileTree _)) x :=
    (closed_settles _).andThen (settles_applyEntries _ _ _ _) fun s =>
      (closed_settles _).andThen (settles_applyEntries _ _ _ _) fun s =>
      settles_applyEnvironment _ _ _
  have habsent : ((load c p overrides).run t').result = x := by
    have hnone : (readFile p).Ends t' fun result _ => result = .ok [] :=
      readFile_of_holds (.nothing hgone)
    refine Act.Ends.andThen (q := fun result _ => result = x) hnone ?_ ?_
    · rintro _ v ⟨⟩
      exact (hx v).2
    · rintro _ _ ⟨⟩
  rw [habsent]
  refine (readFile_of_read hread (membersOf_ends hcontent p t)).andThen ?_ ?_
  · rintro _ _ ⟨rfl, ⟨text, htext, hdigits⟩⟩
    refine (hx _).imp ?_
    rintro _ _ ⟨rfl, rfl⟩
    exact ⟨rfl, .ignored text htext hdigits⟩
  · rintro _ _ ⟨rfl, hfault⟩
    refine ⟨rfl, ?_⟩
    cases hfault with
    | undecodable f hbytes hdecode => exact .undecodable f hbytes hdecode
    | overlong text count htext hread hdigits => exact .overlong text count htext hread hdigits

theorem load_unusable_truncated :
    ((load ⟨.of guest, []⟩ ⟨.absolute, ["s.json"]⟩ []).run (oneFile (Text.utf8 "\x7b"))).result =
      .ok (standard guest) := by
  obtain ⟨what, place, hread⟩ : ∃ what place, Json.parseChars (unifyLineEnds "\x7b".toList) =
      .error (.malformed what place) := ⟨_, _, rfl⟩
  have hcontent : ¬ HoldsObject (Text.utf8 "\x7b") := by
    rintro ⟨text, members, htext, hmembers⟩
    rw [← Text.encodeUtf8_inj.1 htext, hread] at hmembers
    cases hmembers
  obtain ⟨-, hresult⟩ := load_unusable ⟨.of guest, []⟩ ⟨.absolute, ["s.json"]⟩ []
    (oneFile (Text.utf8 "\x7b")) {} _ rfl hcontent rfl
  generalize ((load ⟨.of guest, []⟩ ⟨.absolute, ["s.json"]⟩ []).run
    (oneFile (Text.utf8 "\x7b"))).result = result at hresult ⊢
  cases hresult with
  | ignored => rfl
  | undecodable f hbytes => exact absurd rfl (hbytes _)
  | overlong text count htext hlong =>
    rw [← Text.encodeUtf8_inj.1 htext, hread] at hlong
    cases hlong

/-- The bytes of a file that is no text are a fault, where settings are loaded without the file. -/
theorem fault_of_load :
    ¬ HoldsObject [0xFF] ∧
      ((load ⟨.of guest, []⟩ ⟨.absolute, ["s.json"]⟩ []).run (oneFile [0xFF])).result =
        .error (.undecodable ⟨.utf8, 0xFF, 0, 1, .startByte⟩) ∧
      ((load ⟨.of guest, []⟩ ⟨.absolute, ["s.json"]⟩ []).run {}).result = .ok (standard guest) := by
  have hdecode : Text.decodeUtf8 [0xFF] = .error ⟨.utf8, 0xFF, 0, 1, .startByte⟩ := by
    rw [Text.decodeUtf8, Text.decodeWith]
    rfl
  refine ⟨?_, ?_, rfl⟩
  · rintro ⟨text, members, htext, -⟩
    rw [Text.decodeUtf8_eq_ok.2 htext] at hdecode
    cases hdecode
  · have hmembers : (membersOf ⟨.absolute, ["s.json"]⟩ [0xFF]).Ends (oneFile [0xFF])
        fun result _ => result = .error (.undecodable ⟨.utf8, 0xFF, 0, 1, .startByte⟩) := by
      rw [membersOf, hdecode]
      rfl
    refine Act.Ends.andThen
      (q := fun result _ => result = .error (.undecodable ⟨.utf8, 0xFF, 0, 1, .startByte⟩))
      (readFile_of_read rfl hmembers) ?_ ?_
    · rintro _ _ ⟨⟩
    · rintro _ _ ⟨⟩
      rfl

end ChatHost.Settings
