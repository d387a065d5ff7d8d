import ChatHost.Proofs.Text.Cut
import ChatHost.Url.Basic
import Mathlib.Data.List.TakeWhile

set_option autoImplicit false

/-!
Splitting a URL reads its cleaned form only. What cleaning takes out of a text, and how the cleaned
text is put together from the parts it is split into.
-/

namespace ChatHost.Url

def startsQuery (c : Char) : Bool :=
  c = '?' || c = '#'

def beforeQuery (s : List Char) : List Char :=
  s.takeWhile fun c => !startsQuery c

section cleaned

variable {s : List Char} {c : Char}

theorem isRemoved_iff (c : Char) : isRemoved c ↔ c = '\t' ∨ c = '\n' ∨ c = '\r' := by
  simp [isRemoved, or_assoc]

theorem isRemoved_lt (h : isRemoved c) : c.toNat < 0x20 := by
  rcases (isRemoved_iff c).1 h with rfl | rfl | rfl <;> decide

theorem startsQuery_of_le (h : c.toNat ≤ 0x20) : startsQuery c = false := by
  rw [← Bool.not_eq_true]
  intro hstarts
  simp only [startsQuery, Bool.or_eq_true, decide_eq_true_eq] at hstarts
  rcases hstarts with rfl | rfl <;> exact absurd h (by decide)

theorem mem_cleaned (h : c ∈ cleaned s) : isRemoved c = false := by
  simpa using (List.mem_filter.1 h).2

theorem head_cleaned (h : c ∈ (cleaned s).head?) : 0x20 < c.toNat := by
  rw [cleaned] at h
  cases hs : s.dropWhile fun c => c.toNat ≤ 0x20 with
  | nil =>
    rw [hs] at h
    cases h
  | cons d t =>
    have hd : 0x20 < d.toNat := by
      have hnot := List.head?_dropWhile_not (fun c : Char => decide (c.toNat ≤ 0x20)) s
      rw [hs] at hnot
      simpa using hnot
    have hkept : ¬ isRemoved d := fun hremoved => absurd (isRemoved_lt hremoved) (by omega)
    rw [hs, List.filter_cons_of_pos (by simpa using hkept), List.head?_cons,
      Option.mem_some_iff] at h
    exact h ▸ hd

/-- The texts that cleaning leaves as they are. -/
theorem cleaned_eq_self_iff (s : List Char) :
    cleaned s = s ↔ (∀ c ∈ s, isRemoved c = false) ∧ ∀ c ∈ s.head?, 0x20 < c.toNat := by
  constructor
  · intro h
    rw [← h]
    exact ⟨fun _ => mem_cleaned, fun _ => head_cleaned⟩
  · rintro ⟨hkept, hhead⟩
    have hdrop : (s.dropWhile fun c => c.toNat ≤ 0x20) = s := by
      cases s with
      | nil => rfl
      | cons c t => exact List.dropWhile_cons_of_neg (by simpa using hhead c rfl)
    rw [cleaned, hdrop, List.filter_eq_self]
    simpa using hkept

theorem cleaned_cleaned (s : List Char) : cleaned (cleaned s) = cleaned s :=
  (cleaned_eq_self_iff _).2 ⟨fun _ => mem_cleaned, fun _ => head_cleaned⟩

/-- A text is split as its cleaned form is. -/
theorem split_cleaned (s : List Char) : split (cleaned s) = split s := by
  rw [split, cleaned_cleaned, split]

/-- The text in front of the query is cleaned as the whole text is. -/
theorem beforeQuery_cleaned (s : List Char) :
    beforeQuery (cleaned s) =
      (beforeQuery (s.dropWhile fun c => c.toNat ≤ 0x20)).filter fun c => !isRemoved c := by
  rw [cleaned]
  generalize (s.dropWhile fun c => c.toNat ≤ 0x20) = t
  simp only [beforeQuery]
  induction t with
  | nil => rfl
  | cons c t ih =>
    by_cases hc : isRemoved c
    · have hin : startsQuery c = false := startsQuery_of_le (isRemoved_lt hc).le
      rw [List.filter_cons_of_neg (by simpa using hc), List.takeWhile_cons_of_pos (by simp [hin]),
        List.filter_cons_of_neg (by simpa using hc), ih]
    · rw [List.filter_cons_of_pos (by simpa using hc), List.takeWhile_cons, List.takeWhile_cons, ih]
      split_ifs
      · rw [List.filter_cons_of_pos (by simpa using hc)]
      · rfl

/-- What is dropped at the front of a text stands in front of its query. -/
theorem beforeQuery_eq (s : List Char) :
    beforeQuery s = (s.takeWhile fun c => c.toNat ≤ 0x20) ++
      beforeQuery (s.dropWhile fun c => c.toNat ≤ 0x20) := by
  have hlead : ∀ c ∈ s.takeWhile fun c => c.toNat ≤ 0x20, !startsQuery c := by
    intro c hc
    have hle : c.toNat ≤ 0x20 := by simpa using List.mem_takeWhile_imp hc
    rw [startsQuery_of_le hle, Bool.not_false]
  rw [beforeQuery, beforeQuery, ← List.takeWhile_append_of_pos hlead,
    List.takeWhile_append_dropWhile]

end cleaned

theorem splitScheme_spec {s scheme rest : List Char} (h : splitScheme s = (scheme, rest))
    (hscheme : scheme ≠ []) :
    ∃ pre, s = pre ++ ':' :: rest ∧ ∀ c ∈ pre, isSchemeChar c := by
  have hcut := (Text.cutFirst_spec ':' s).2
  rw [splitScheme] at h
  split at h
  · rename_i c cs behind hparts
    split at h
    · rename_i hchars
      obtain ⟨-, rfl⟩ := Prod.mk.inj h
      rw [Bool.and_eq_true, List.all_eq_true] at hchars
      rw [hparts] at hcut
      refine ⟨c :: cs, hcut, fun d hd => ?_⟩
      rcases List.mem_cons.1 hd with rfl | hd
      · simp [isSchemeChar, Char.isAlphanum, hchars.1]
      · exact hchars.2 d hd
    · exact absurd (Prod.mk.inj h).1.symm hscheme
  · exact absurd (Prod.mk.inj h).1.symm hscheme

theorem splitNetloc_spec {s netloc rest : List Char} (h : splitNetloc s = (netloc, rest))
    (hnetloc : netloc ≠ []) :
    s = '/' :: '/' :: (netloc ++ rest) ∧ (∀ c ∈ netloc, endsNetloc c = false) ∧
      ∀ c ∈ rest.head?, endsNetloc c := by
  unfold splitNetloc at h
  split at h
  · rename_i behind
    obtain ⟨rfl, rfl⟩ := Prod.mk.inj h
    refine ⟨by rw [List.takeWhile_append_dropWhile], fun c hc => ?_, fun c hc => ?_⟩
    · simpa using List.mem_takeWhile_imp hc
    · have hnot := List.head?_dropWhile_not (fun c => !endsNetloc c) behind
      rw [Option.mem_def.1 hc] at hnot
      simpa using hnot
  · exact absurd (Prod.mk.inj h).1.symm hnetloc

theorem split_spec {s : List Char} {parts : Parts} (h : split s = .ok parts) :
    ∃ behind rest, splitScheme (cleaned s) = (parts.scheme, behind) ∧
      splitNetloc behind = (parts.netloc, rest) ∧ checkNetloc parts.netloc = .ok () ∧
        parts.path = beforeQuery rest := by
  rw [split] at h
  rcases hscheme : splitScheme (cleaned s) with ⟨scheme, behind⟩
  rcases hnetloc : splitNetloc behind with ⟨netloc, rest⟩
  simp only [hscheme, hnetloc] at h
  cases hcheck : checkNetloc netloc with
  | error e =>
    rw [hcheck] at h
    cases h
  | ok u =>
    cases hlook : checkLookalikes netloc with
    | error e =>
      rw [hcheck, hlook] at h
      cases h
    | ok v =>
      rw [hcheck, hlook] at h
      cases h
      refine ⟨behind, rest, rfl, hnetloc, hcheck, ?_⟩
      simp only [Text.cutFirst, List.takeWhile_takeWhile, beforeQuery]
      congr 1
      funext c
      simp [startsQuery]

/-- The parts of a URL that shows a scheme and a network location, put together again. -/
structure SplitsAs (s pre rest : List Char) (parts : Parts) : Prop where
  text : cleaned s = pre ++ ':' :: '/' :: '/' :: (parts.netloc ++ rest)
  scheme (c : Char) : c ∈ pre → isSchemeChar c
  netloc (c : Char) : c ∈ parts.netloc → endsNetloc c = false
  ends (c : Char) : c ∈ rest.head? → endsNetloc c
  checked : checkNetloc parts.netloc = .ok ()
  path : parts.path = beforeQuery rest

theorem netloc_ne_nil {p : Parts} {host : List Char} (h : p.hostname = some host) :
    p.netloc ≠ [] := by
  intro hnil
  simp [Parts.hostname, Parts.hostAndPort, hostPort, Text.cutLast, Text.cutFirst, hnil] at h

theorem exists_splitsAs {s : List Char} {parts : Parts} (h : split s = .ok parts)
    (hscheme : parts.scheme ≠ []) (hnetloc : parts.netloc ≠ []) :
    ∃ pre rest, SplitsAs s pre rest parts := by
  obtain ⟨behind, rest, hbehind, hrest, hchecked, hpath⟩ := split_spec h
  obtain ⟨pre, htext, hpre⟩ := splitScheme_spec hbehind hscheme
  obtain ⟨rfl, hloc, hends⟩ := splitNetloc_spec hrest hnetloc
  exact ⟨pre, rest, ⟨htext, hpre, hloc, hends, hchecked, hpath⟩⟩

/-- What stands in front of the query of a cleaned URL ends with its path, which starts with a
slash. -/
theorem SplitsAs.exists_front {s pre rest : List Char} {parts : Parts}
    (h : SplitsAs s pre rest parts) :
    (∃ front, beforeQuery (cleaned s) = front ++ parts.path) ∧ ∀ c ∈ parts.path.head?, c = '/' := by
  constructor
  · refine ⟨pre ++ ':' :: '/' :: '/' :: parts.netloc, ?_⟩
    have hfront : ∀ c ∈ pre ++ ':' :: '/' :: '/' :: parts.netloc, !startsQuery c := by
      intro c hc
      by_contra hstarts
      have hquery : c = '?' ∨ c = '#' := by simpa [startsQuery, or_iff_not_imp_left] using hstarts
      simp only [List.mem_append, List.mem_cons] at hc
      rcases hc with hc | rfl | rfl | rfl | hc
      · have hchar := h.scheme c hc
        rcases hquery with rfl | rfl <;> exact absurd hchar (by decide)
      · exact absurd hquery (by decide)
      · exact absurd hquery (by decide)
      · exact absurd hquery (by decide)
      · have hnot := h.netloc c hc
        rcases hquery with rfl | rfl <;> exact absurd hnot (by decide)
    have hread : beforeQuery (pre ++ ':' :: '/' :: '/' :: parts.netloc ++ rest) =
        pre ++ ':' :: '/' :: '/' :: parts.netloc ++ beforeQuery rest :=
      List.takeWhile_append_of_pos hfront
    rw [h.text, h.path, ← hread]
    simp
  · intro c hc
    rw [h.path, beforeQuery] at hc
    cases hrest : rest with
    | nil =>
      rw [hrest] at hc
      cases hc
    | cons d t =>
      have hends := h.ends d (by simp [hrest])
      rw [hrest, List.takeWhile_cons] at hc
      split_ifs at hc with hquery
      · obtain rfl : d = c := by simpa using hc
        simp only [endsNetloc, Bool.or_eq_true, beq_iff_eq] at hends
        rcases hends with (hslash | rfl) | rfl
        · exact hslash
        · exact absurd hquery (by decide)
        · exact absurd hquery (by decide)
      · cases hc

end ChatHost.Url
