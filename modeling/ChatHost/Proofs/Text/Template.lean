import ChatHost.Text.Template

set_option autoImplicit false

/-!
What templates come to: text without braces stands for itself, a name in braces for its value, and
that value is taken over as it is.
-/

namespace ChatHost.Text

def isUnbraced (s : List Char) : Bool :=
  s.all fun c => c ≠ '\x7b' && c ≠ '\x7d'

theorem isUnbraced_cons {c : Char} {s : List Char} :
    isUnbraced (c :: s) = true ↔ (c ≠ '\x7b' ∧ c ≠ '\x7d') ∧ isUnbraced s = true := by
  simp [isUnbraced]

/-- A text that is written out is looked at as the list of its characters. -/
theorem isUnbraced_ofList {s : List Char} (hs : isUnbraced s = true) :
    isUnbraced (String.ofList s).toList = true := by
  rwa [String.toList_ofList]

theorem isUnbraced_append {s t : String} (hs : isUnbraced s.toList = true)
    (ht : isUnbraced t.toList = true) : isUnbraced (s ++ t).toList = true := by
  rw [String.toList_append, isUnbraced, List.all_append, Bool.and_eq_true]
  exact ⟨hs, ht⟩

variable {value? : String → Option String}

theorem fill_cons {c : Char} (hopen : c ≠ '\x7b') (hclose : c ≠ '\x7d') (rest : List Char) :
    fill value? none (c :: rest) = (fill value? none rest).map (c :: ·) := by
  rw [fill]
  · exact fun _ h => absurd h hopen
  · exact hopen
  · exact fun _ h => absurd h hclose
  · exact hclose

theorem fill_name_cons {c : Char} (hopen : c ≠ '\x7b') (hclose : c ≠ '\x7d')
    (name rest : List Char) :
    fill value? (some name) (c :: rest) = fill value? (some (c :: name)) rest := by
  rw [fill]
  · exact hopen
  · exact hclose

/-- Text without braces stands for itself. -/
theorem fill_text {s : List Char} (hs : isUnbraced s = true) (rest : List Char) :
    fill value? none (s ++ rest) = (fill value? none rest).map (s ++ ·) := by
  induction s with
  | nil => simp
  | cons c s ih =>
    obtain ⟨⟨hopen, hclose⟩, hs⟩ := isUnbraced_cons.1 hs
    rw [List.cons_append, fill_cons hopen hclose, ih hs, Option.map_map]
    rfl

theorem fill_name {s : List Char} (hs : isUnbraced s = true) (name rest : List Char) :
    fill value? (some name) (s ++ '\x7d' :: rest) =
      (value? (String.ofList (name.reverse ++ s))).bind fun value =>
        (fill value? none rest).map (value.toList ++ ·) := by
  induction s generalizing name with
  | nil => rw [List.nil_append, fill, List.append_nil]
  | cons c s ih =>
    obtain ⟨⟨hopen, hclose⟩, hs⟩ := isUnbraced_cons.1 hs
    rw [List.cons_append, fill_name_cons hopen hclose, ih hs, List.reverse_cons,
      List.append_assoc]
    rfl

/-- A name in braces stands for its value, and the rest of the template is read behind it. -/
theorem fill_field {name : List Char} (hname : isUnbraced name = true) (rest : List Char) :
    fill value? none ('\x7b' :: (name ++ '\x7d' :: rest)) =
      (value? (String.ofList name)).bind fun value =>
        (fill value? none rest).map (value.toList ++ ·) := by
  have hopen : fill value? none ('\x7b' :: (name ++ '\x7d' :: rest)) =
      fill value? (some []) (name ++ '\x7d' :: rest) := by
    cases name with
    | nil => rfl
    | cons c name =>
      obtain ⟨⟨hopen, -⟩, -⟩ := isUnbraced_cons.1 hname
      rw [fill]
      exact fun _ h => absurd (List.cons.inj h).1 hopen
  rw [hopen, fill_name hname, List.reverse_nil, List.nil_append]

end ChatHost.Text
