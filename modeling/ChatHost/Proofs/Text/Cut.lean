import ChatHost.Text.Cut
import Mathlib.Data.List.Infix

set_option autoImplicit false

/-!
Texts and their pieces: what the pieces of a text are, and what the last pieces say of its end.
-/

namespace ChatHost.Text

theorem cutFirst_cons_self (c : Char) (s : List Char) : cutFirst c (c :: s) = ([], some s) := by
  simp [cutFirst]

theorem cutFirst_cons_of_ne {c d : Char} (h : d ≠ c) (s : List Char) :
    cutFirst c (d :: s) = (d :: (cutFirst c s).1, (cutFirst c s).2) := by
  simp [cutFirst, h]

/-- What is cut at a character is the text again with the character between. -/
theorem cutFirst_spec (c : Char) (s : List Char) :
    c ∉ (cutFirst c s).1 ∧
      s = (cutFirst c s).1 ++ ((cutFirst c s).2.map (c :: ·)).getD [] := by
  induction s with
  | nil => simp [cutFirst]
  | cons d s ih =>
    by_cases hd : d = c
    · rw [hd, cutFirst_cons_self]
      simp
    · rw [cutFirst_cons_of_ne hd, List.mem_cons, not_or, List.cons_append, ← ih.2]
      exact ⟨⟨Ne.symm hd, ih.1⟩, rfl⟩

theorem cutFirst_of_not_mem {c : Char} {s : List Char} (h : c ∉ s) :
    cutFirst c s = (s, none) := by
  induction s with
  | nil => rfl
  | cons d s ih =>
    rw [List.mem_cons, not_or] at h
    rw [cutFirst_cons_of_ne (Ne.symm h.1), ih h.2]

/-- A text is cut behind what does not hold the character. -/
theorem cutFirst_append {c : Char} {s : List Char} (h : c ∉ s) (t : List Char) :
    cutFirst c (s ++ c :: t) = (s, some t) := by
  induction s with
  | nil => exact cutFirst_cons_self c t
  | cons d s ih =>
    rw [List.mem_cons, not_or] at h
    rw [List.cons_append, cutFirst_cons_of_ne (Ne.symm h.1), ih h.2]

theorem cutLast_of_not_mem {c : Char} {s : List Char} (h : c ∉ s) : cutLast c s = (none, s) := by
  simp [cutLast, cutFirst_of_not_mem (s := s.reverse) (by simpa using h)]

theorem cutLast_append {c : Char} {t : List Char} (h : c ∉ t) (s : List Char) :
    cutLast c (s ++ c :: t) = (some s, t) := by
  have hcut := cutFirst_append (s := t.reverse) (by simpa using h) s.reverse
  simp [cutLast, hcut]

theorem pieces_ne_nil (c : Char) (s : List Char) : pieces c s ≠ [] := by
  cases s with
  | nil => simp [pieces]
  | cons d s =>
    rw [pieces]
    split_ifs
    · simp
    · split <;> simp

theorem pieces_cons_self (c : Char) (s : List Char) : pieces c (c :: s) = [] :: pieces c s := by
  rw [pieces, if_pos rfl]

theorem pieces_cons_of_ne {c d : Char} (h : d ≠ c) {s p : List Char} {ps : List (List Char)}
    (hs : pieces c s = p :: ps) : pieces c (d :: s) = (d :: p) :: ps := by
  rw [pieces, if_neg h, hs]

theorem pieces_of_not_mem {c : Char} {s : List Char} (h : c ∉ s) : pieces c s = [s] := by
  induction s with
  | nil => rfl
  | cons d s ih =>
    rw [List.mem_cons, not_or] at h
    exact pieces_cons_of_ne (Ne.symm h.1) (ih h.2)

/-- The pieces of two texts with the character between them. -/
theorem pieces_append (c : Char) (s t : List Char) :
    pieces c (s ++ c :: t) = pieces c s ++ pieces c t := by
  induction s with
  | nil => exact pieces_cons_self c t
  | cons d s ih =>
    rw [List.cons_append]
    by_cases hd : d = c
    · rw [hd, pieces_cons_self, pieces_cons_self, ih, List.cons_append]
    · obtain ⟨p, ps, hs⟩ := List.exists_cons_of_ne_nil (pieces_ne_nil c s)
      rw [hs, List.cons_append] at ih
      rw [pieces_cons_of_ne hd ih, pieces_cons_of_ne hd hs, List.cons_append]

/-- The characters that are left out when the separator stays are left out of every piece. -/
theorem pieces_filter {c : Char} (keep : Char → Bool) (hc : keep c) (s : List Char) :
    pieces c (s.filter keep) = (pieces c s).map (List.filter keep) := by
  induction s with
  | nil => rfl
  | cons d s ih =>
    by_cases hd : d = c
    · rw [hd, List.filter_cons_of_pos hc, pieces_cons_self, pieces_cons_self, ih]
      rfl
    · obtain ⟨p, ps, hs⟩ := List.exists_cons_of_ne_nil (pieces_ne_nil c s)
      rw [hs, List.map_cons] at ih
      rw [pieces_cons_of_ne hd hs, List.map_cons]
      by_cases hkeep : keep d
      · rw [List.filter_cons_of_pos hkeep, List.filter_cons_of_pos hkeep, pieces_cons_of_ne hd ih]
      · rw [List.filter_cons_of_neg hkeep, List.filter_cons_of_neg hkeep, ih]

/-- A text without the separator in front of another one is put in front of its first piece. -/
theorem pieces_append_of_not_mem {c : Char} {s : List Char} (h : c ∉ s) {t p : List Char}
    {ps : List (List Char)} (ht : pieces c t = p :: ps) : pieces c (s ++ t) = (s ++ p) :: ps := by
  induction s with
  | nil => exact ht
  | cons d s ih =>
    rw [List.mem_cons, not_or] at h
    exact pieces_cons_of_ne (Ne.symm h.1) (ih h.2)

theorem joined_append {sep : List Char} {ps qs : List (List Char)} (hp : ps ≠ []) (hq : qs ≠ []) :
    joined sep (ps ++ qs) = joined sep ps ++ sep ++ joined sep qs := by
  induction ps with
  | nil => exact absurd rfl hp
  | cons p ps ih =>
    cases ps with
    | nil =>
      obtain ⟨q, qs, rfl⟩ := List.exists_cons_of_ne_nil hq
      rfl
    | cons p' ps =>
      have hrest := ih (by simp)
      rw [List.cons_append] at hrest
      simp only [List.cons_append, joined, hrest, List.append_assoc]

/-- The pieces with the character between them are the text. -/
theorem joined_pieces (c : Char) (s : List Char) : joined [c] (pieces c s) = s := by
  induction s with
  | nil => rfl
  | cons d s ih =>
    obtain ⟨p, ps, hs⟩ := List.exists_cons_of_ne_nil (pieces_ne_nil c s)
    rw [hs] at ih
    by_cases hd : d = c
    · rw [hd, pieces_cons_self, hs]
      change c :: joined [c] (p :: ps) = c :: s
      rw [ih]
    · rw [pieces_cons_of_ne hd hs]
      cases ps with
      | nil => exact congrArg (d :: ·) ih
      | cons q ps => exact congrArg (d :: ·) ih

theorem not_mem_of_mem_pieces {c : Char} {s p : List Char} (hp : p ∈ pieces c s) : c ∉ p := by
  induction s generalizing p with
  | nil =>
    rw [List.mem_singleton.1 hp]
    exact List.not_mem_nil
  | cons d s ih =>
    by_cases hd : d = c
    · rw [hd, pieces_cons_self, List.mem_cons] at hp
      rcases hp with rfl | hp
      · exact List.not_mem_nil
      · exact ih hp
    · obtain ⟨q, qs, hs⟩ := List.exists_cons_of_ne_nil (pieces_ne_nil c s)
      rw [pieces_cons_of_ne hd hs, List.mem_cons] at hp
      rcases hp with rfl | hp
      · have hq := ih (hs ▸ List.mem_cons_self)
        exact fun hc => (List.mem_cons.1 hc).elim (Ne.symm hd) hq
      · exact ih (hs ▸ List.mem_cons_of_mem q hp)

/-- What is joined from texts without the separator has them as its pieces. -/
theorem pieces_joined {c : Char} {ps : List (List Char)} (hne : ps ≠ []) (h : ∀ p ∈ ps, c ∉ p) :
    pieces c (joined [c] ps) = ps := by
  induction ps with
  | nil => exact absurd rfl hne
  | cons p ps ih =>
    have hp := pieces_of_not_mem (h p List.mem_cons_self)
    cases ps with
    | nil => exact hp
    | cons q ps =>
      have hrest := ih (List.cons_ne_nil q ps) fun r hr => h r (List.mem_cons_of_mem p hr)
      rw [joined, List.append_assoc, List.singleton_append, pieces_append, hp, hrest]
      rfl

/-- The last pieces of a text are those of another one just when the text is the other one, or ends
with the character and the other one. -/
theorem pieces_suffix (c : Char) (s t : List Char) :
    pieces c t <:+ pieces c s ↔ s = t ∨ c :: t <:+ s := by
  constructor
  · rintro ⟨ps, hps⟩
    have hs := joined_pieces c s
    by_cases hnil : ps = []
    · left
      rw [← hps, hnil, List.nil_append, joined_pieces] at hs
      exact hs.symm
    · right
      rw [← hps, joined_append hnil (pieces_ne_nil c t), joined_pieces, List.append_assoc] at hs
      exact ⟨joined [c] ps, hs⟩
  · rintro (rfl | ⟨u, rfl⟩)
    · exact List.suffix_refl _
    · rw [pieces_append]
      exact List.suffix_append _ _

/-- Whether a piece is the last one that is not empty. -/
def IsLastFilled (ps : List (List Char)) (s : List Char) : Prop :=
  s ≠ [] ∧ ∃ before after, ps = before ++ s :: after ∧ ∀ t ∈ after, t = []

theorem isLastFilled_iff (ps : List (List Char)) (s : List Char) :
    IsLastFilled ps s ↔ (ps.filter fun s => !s.isEmpty).getLast? = some s := by
  rw [List.getLast?_eq_head?_reverse, ← List.filter_reverse, List.head?_filter,
    List.find?_eq_some_iff_append, IsLastFilled]
  constructor
  · rintro ⟨hs, before, after, hpieces, hafter⟩
    refine ⟨by simpa using hs, after.reverse, before.reverse, ?_, fun t ht => ?_⟩
    · rw [hpieces]
      simp
    · simpa using hafter t (List.mem_reverse.1 ht)
  · rintro ⟨hs, after, before, hpieces, hafter⟩
    refine ⟨by simpa using hs, before.reverse, after.reverse, ?_, fun t ht => ?_⟩
    · rw [← List.reverse_reverse ps, hpieces]
      simp
    · simpa using hafter t (List.mem_reverse.1 ht)

section IsLastFilled

variable {ps : List (List Char)} {s : List Char}

theorem IsLastFilled.unique {t : List Char} (hs : IsLastFilled ps s) (ht : IsLastFilled ps t) :
    s = t := by
  rw [isLastFilled_iff] at hs ht
  exact Option.some.inj (hs.symm.trans ht)

theorem IsLastFilled.append_left (h : IsLastFilled ps s) (qs : List (List Char)) :
    IsLastFilled (qs ++ ps) s := by
  obtain ⟨hs, before, after, rfl, hafter⟩ := h
  exact ⟨hs, qs ++ before, after, (List.append_assoc _ _ _).symm, hafter⟩

theorem exists_isLastFilled (hmem : s ∈ ps) (hs : s ≠ []) : ∃ t, IsLastFilled ps t := by
  have hfilled : s ∈ ps.filter fun s => !s.isEmpty := List.mem_filter.2 ⟨hmem, by simpa using hs⟩
  exact ⟨_, (isLastFilled_iff _ _).2 (List.getLast?_eq_some_getLast (List.ne_nil_of_mem hfilled))⟩

/-- The last piece that is not empty stays the last one when characters that it does not hold are
left out. -/
theorem IsLastFilled.map_filter (h : IsLastFilled ps s) (keep : Char → Bool)
    (hkeep : ∀ c ∈ s, keep c) : IsLastFilled (ps.map (List.filter keep)) s := by
  obtain ⟨hs, before, after, rfl, hafter⟩ := h
  refine ⟨hs, before.map (List.filter keep), after.map (List.filter keep), ?_, fun t ht => ?_⟩
  · rw [List.map_append, List.map_cons, List.filter_eq_self.2 hkeep]
  · obtain ⟨u, hu, rfl⟩ := List.mem_map.1 ht
    rw [hafter u hu, List.filter_nil]

end IsLastFilled

theorem endsWith_iff (s suffix : List Char) : endsWith s suffix ↔ suffix <:+ s := by
  rw [endsWith, List.isPrefixOf_iff_prefix, List.reverse_prefix]

end ChatHost.Text
