import ChatHost.Json.Parse
import ChatHost.Proofs.Json.RoundTrip
import Mathlib.Data.List.Infix

set_option autoImplicit false

/-!
Where a whole number is too long to be read, the text has a run of that many digits. Every reader
takes what it reads from the front of a text, so that the digits one of them meets stand in the
whole text.
-/

namespace ChatHost.Json

open Text

/-- Whether letters have a run of as many digits as given, and these are too many for a number. -/
def OverlongLetters (cs : List Letter) (count : Nat) : Prop :=
  Decimal.digitLimit < count ∧ ∃ digits, ofChars digits <:+: cs ∧ digits.length = count ∧
    ∀ c ∈ digits, isAsciiDigit c = true

/-- Whether a text has a run of as many digits as given, and these are too many for a number. -/
def Overlong (cs : List Char) (count : Nat) : Prop :=
  Decimal.digitLimit < count ∧
    ∃ digits, digits <:+: cs ∧ digits.length = count ∧ ∀ c ∈ digits, Text.isAsciiDigit c = true

theorem overlongLetters_ofChars {cs : List Char} {count : Nat} :
    OverlongLetters (ofChars cs) count ↔ Overlong cs count := by
  have hchars : Function.Injective Letter.char := fun _ _ => Letter.char.inj
  have hinfix (digits : List Char) : ofChars digits <:+: ofChars cs ↔ digits <:+: cs := by
    constructor
    · rintro ⟨s, t, h⟩
      obtain ⟨su, u, rfl, hsu, rfl⟩ := List.append_eq_map_iff.1 h
      obtain ⟨s, d, rfl, rfl, hd⟩ := List.append_eq_map_iff.1 hsu.symm
      exact ⟨s, u, by rw [hchars.list_map hd]⟩
    · exact fun h => h.map _
  simp only [OverlongLetters, Overlong, hinfix]

variable {α β τ : Type} {cs ds : List Letter}

theorem OverlongLetters.of_suffix {count : Nat} (h : OverlongLetters cs count) (hs : cs <:+ ds) :
    OverlongLetters ds count := by
  obtain ⟨hlimit, digits, hinfix, hdigits⟩ := h
  exact ⟨hlimit, digits, hinfix.trans hs.isInfix, hdigits⟩

/-- What a reader gives back for a text: the end of it, or an account of a number that is too
long. -/
def Reads (cs : List Letter) (r : Read α) : Prop :=
  match r with
  | .ok (_, rest) => rest <:+ cs
  | .error (.tooManyDigits count) => OverlongLetters cs count
  | .error (.fault _ _) => True

theorem Reads.of_suffix {r : Read α} (h : Reads cs r) (hs : cs <:+ ds) : Reads ds r := by
  match r with
  | .ok (_, rest) => exact List.IsSuffix.trans h hs
  | .error (.tooManyDigits count) => exact OverlongLetters.of_suffix h hs
  | .error (.fault _ _) => trivial

theorem Reads.map {r : Read α} (h : Reads cs r) (f : α → β) :
    Reads cs (r.map fun (a, rest) => (f a, rest)) := by
  match r with
  | .ok (_, rest) => exact h
  | .error (.tooManyDigits count) => exact h
  | .error (.fault _ _) => trivial

theorem Reads.error {e : Refusal} (h : Reads cs (.error e : Read α)) :
    Reads cs (.error e : Read β) := by
  cases e with
  | fault what left => trivial
  | tooManyDigits count => exact h

theorem reads_consRead {r : Read (List Letter)} (h : Reads cs r) (c : Letter) :
    Reads cs (consRead c r) := by
  match r with
  | .ok (_, rest) => exact h
  | .error e => exact h

theorem reads_flushHalf {r : Read (List Letter)} (h : Reads cs r) (pending : Option Nat) :
    Reads cs (flushHalf pending r) := by
  cases pending with
  | none => exact h
  | some high => exact reads_consRead h _

theorem reads_stringBody (opening : Nat) (pending : Option Nat) (cs : List Letter) :
    Reads cs (stringBody opening pending cs) := by
  have hunit (a b c d : Letter) (tail : List Letter) :
      tail <:+ .char '\\' :: .char 'u' :: a :: b :: c :: d :: tail :=
    ⟨[.char '\\', .char 'u', a, b, c, d], rfl⟩
  have hshort (c d : Letter) (rest : List Letter) : rest <:+ c :: d :: rest := ⟨[c, d], rfl⟩
  fun_induction stringBody opening pending cs with
  | case4 a b c d _ _ u _ high _ ih => exact reads_consRead (ih.of_suffix (hunit a b c d _)) _
  | case5 a b c d _ _ u _ high _ _ ih => exact reads_consRead (ih.of_suffix (hunit a b c d _)) _
  | case6 a b c d _ _ u _ high _ _ ih =>
    exact reads_consRead (reads_consRead (ih.of_suffix (hunit a b c d _)) _) _
  | case7 a b c d _ _ u _ _ ih => exact ih.of_suffix (hunit a b c d _)
  | case8 a b c d _ _ u _ _ ih => exact reads_consRead (ih.of_suffix (hunit a b c d _)) _
  | case12 pending c rest _ _ e _ ih =>
    exact reads_flushHalf (reads_consRead (ih.of_suffix (hshort (.char '\\') c rest)) e) pending
  | case13 pending rest =>
    have hrest : Reads (.char '\x22' :: rest) (.ok ([], rest) : Read (List Letter)) :=
      List.suffix_cons _ rest
    exact reads_flushHalf hrest pending
  | case15 pending c rest _ _ _ _ _ _ ih =>
    exact reads_flushHalf (reads_consRead (ih.of_suffix (List.suffix_cons c rest)) c) pending
  | _ => trivial

/-! Numbers, and all that is read from characters only. -/

section

variable {cs : List Char}

theorem wholePart_eq_some {whole rest : List Char} (h : wholePart? cs = some (whole, rest)) :
    cs = whole ++ rest ∧ ∀ c ∈ whole, Text.isAsciiDigit c = true := by
  unfold wholePart? at h
  split at h
  · cases h
    simp [Text.isAsciiDigit]
  · split at h
    · cases h
      exact ⟨List.takeWhile_append_dropWhile.symm, List.all_eq_true.1 List.all_takeWhile⟩
    · cases h
  · cases h

theorem fractionPart_suffix (cs : List Char) : (fractionPart cs).2 <:+ cs := by
  unfold fractionPart
  split
  · split
    · exact List.suffix_rfl
    · exact (List.dropWhile_suffix _).trans (List.suffix_cons _ _)
  · exact List.suffix_rfl

theorem exponentSign_suffix (cs : List Char) : (exponentSign cs).2 <:+ cs := by
  unfold exponentSign
  split
  · exact List.suffix_cons _ _
  · exact List.suffix_cons _ _
  · exact List.suffix_rfl

theorem exponentPart_suffix (cs : List Char) : (exponentPart cs).2 <:+ cs := by
  unfold exponentPart
  split
  · rename_i e rest
    split
    · dsimp only
      split
      · exact List.suffix_rfl
      · have hdigits := List.dropWhile_suffix (l := (exponentSign rest).2) Text.isAsciiDigit
        exact (hdigits.trans (exponentSign_suffix rest)).trans (List.suffix_cons e rest)
    · exact List.suffix_rfl
  · exact List.suffix_rfl

/-- What a reader of characters gives back, as that of a reader of letters. -/
def inLetters (r : Read α Char) : Read α :=
  r.map fun (a, rest) => (a, ofChars rest)

theorem reads_inLetters {r : Read α Char} (h : ∀ a rest, r = .ok (a, rest) → rest <:+ cs)
    (hover : ∀ count, r = .error (.tooManyDigits count) → Overlong cs count) :
    Reads (ofChars cs) (inLetters r) := by
  match r with
  | .ok (a, rest) => exact (h a rest rfl).map _
  | .error (.tooManyDigits count) => exact overlongLetters_ofChars.2 (hover count rfl)
  | .error (.fault _ _) => trivial

theorem inLetters_map (r : Read α Char) (f : α → β) :
    inLetters (r.map fun (a, rest) => (f a, rest)) =
      (inLetters r).map fun (a, rest) => (f a, rest) := by
  cases r <;> rfl

theorem reads_unsigned (negative : Bool) (left : Nat) (cs : List Char) :
    Reads (ofChars cs) (inLetters (unsigned negative left cs)) := by
  unfold unsigned
  split
  · trivial
  · rename_i whole rest hwhole
    obtain ⟨rfl, hdigits⟩ := wholePart_eq_some hwhole
    have hfraction := fractionPart_suffix rest
    have hexponent := exponentPart_suffix (fractionPart rest).2
    have hrest : (exponentPart (fractionPart rest).2).2 <:+ whole ++ rest :=
      (hexponent.trans hfraction).trans (List.suffix_append whole rest)
    dsimp only
    split
    · split
      · rename_i hlimit
        exact overlongLetters_ofChars.2
          ⟨hlimit, whole, (List.prefix_append whole rest).isInfix, rfl, hdigits⟩
      · exact hrest.map _
    · exact hrest.map _

theorem reads_plainScalar (left : Nat) (cs : List Char) :
    Reads (ofChars cs) (inLetters (plainScalar left cs : Read (Json τ) Char)) := by
  have hword (word rest : List Char) : ofChars rest <:+ ofChars (word ++ rest) :=
    (List.suffix_append word rest).map _
  unfold plainScalar
  split
  · exact hword "null".toList _
  · exact hword "true".toList _
  · exact hword "false".toList _
  · exact hword "NaN".toList _
  · exact hword "Infinity".toList _
  · exact hword "-Infinity".toList _
  · rw [inLetters_map]
    exact ((reads_unsigned true _ _).of_suffix (List.suffix_cons _ _)).map Json.num
  · rw [inLetters_map]
    exact (reads_unsigned false _ _).map Json.num

end

theorem ofChars_splitChars (cs : List Letter) :
    ofChars (splitChars cs).1 ++ (splitChars cs).2 = cs := by
  fun_induction splitChars cs with
  | case1 c cs front rest hsplit ih =>
    rw [hsplit] at ih
    rw [ofChars, List.map_cons, List.cons_append, ih]
  | case2 cs h => rfl

/-- Only the characters in front of the first half are read; what is behind stays as it is. -/
theorem reads_scalar (cs : List Letter) : Reads cs (scalar cs : Read (Json τ)) := by
  have hsplit := ofChars_splitChars cs
  have hread := reads_plainScalar (τ := τ) cs.length (splitChars cs).1
  unfold scalar
  dsimp only
  generalize hr : (plainScalar cs.length (splitChars cs).1 : Read (Json τ) Char) = r at hread ⊢
  match r with
  | .ok (v, rest) =>
    obtain ⟨taken, htaken⟩ := hread
    refine ⟨taken, ?_⟩
    rw [← List.append_assoc, htaken, hsplit]
  | .error (.tooManyDigits count) =>
    obtain ⟨hlimit, digits, hinfix, hdigits⟩ := hread
    exact ⟨hlimit, digits, hinfix.trans ⟨[], _, hsplit⟩, hdigits⟩
  | .error (.fault _ _) => trivial

variable [Script τ]

theorem reads_string (cs : List Letter) : Reads cs (string cs : Read τ) := by
  have h := reads_stringBody (cs.length + 1) none cs
  unfold string
  split
  · rename_i s rest hbody
    rw [hbody] at h
    exact h
  · rename_i e hbody
    rw [hbody] at h
    exact h.error

theorem skipSpace_suffix (cs : List Letter) : skipSpace cs <:+ cs :=
  List.dropWhile_suffix _

theorem suffix_of_skipSpace {c : Letter} {rest : List Letter} (h : skipSpace cs = c :: rest) :
    rest <:+ cs :=
  (List.suffix_cons c rest).trans (h ▸ skipSpace_suffix cs)

variable [BEq τ] {fuel : Nat}

theorem reads_value_succ (hitems : ∀ cs, Reads cs (items fuel cs : Read (List (Json τ))))
    (hmembers : ∀ cs, Reads cs (members fuel cs : Read (List (τ × Json τ)))) (cs : List Letter) :
    Reads cs (value (fuel + 1) cs : Read (Json τ)) := by
  unfold value
  split
  · rename_i rest
    exact ((reads_string (τ := τ) rest).of_suffix (List.suffix_cons _ rest)).map Json.str
  · rename_i rest
    split
    · rename_i after hspace
      exact (suffix_of_skipSpace hspace).trans (List.suffix_cons _ rest)
    · have hs := (skipSpace_suffix rest).trans (List.suffix_cons (.char '[') rest)
      exact ((hitems _).of_suffix hs).map Json.arr
  · rename_i rest
    split
    · rename_i after hspace
      exact (suffix_of_skipSpace hspace).trans (List.suffix_cons _ rest)
    · have hs := (skipSpace_suffix rest).trans (List.suffix_cons (.char '\x7b') rest)
      exact ((hmembers _).of_suffix hs).map fun ms => Json.obj (OrderedMap.ofList ms)
  · exact reads_scalar cs

theorem reads_items_succ (hvalue : ∀ cs, Reads cs (value fuel cs : Read (Json τ)))
    (hitems : ∀ cs, Reads cs (items fuel cs : Read (List (Json τ)))) (cs : List Letter) :
    Reads cs (items (fuel + 1) cs : Read (List (Json τ))) := by
  unfold items
  have hx := hvalue cs
  split
  · rename_i e hread
    rw [hread] at hx
    exact hx.error
  · rename_i x rest hread
    rw [hread] at hx
    split
    · rename_i after hspace
      exact (suffix_of_skipSpace hspace).trans hx
    · rename_i after hspace
      have hs := ((skipSpace_suffix after).trans (suffix_of_skipSpace hspace)).trans hx
      exact ((hitems _).of_suffix hs).map (x :: ·)
    · trivial

theorem reads_members_succ (hvalue : ∀ cs, Reads cs (value fuel cs : Read (Json τ)))
    (hmembers : ∀ cs, Reads cs (members fuel cs : Read (List (τ × Json τ)))) (cs : List Letter) :
    Reads cs (members (fuel + 1) cs : Read (List (τ × Json τ))) := by
  unfold members
  split
  · rename_i rest
    have hk := (reads_string (τ := τ) rest).of_suffix (List.suffix_cons (.char '\x22') rest)
    split
    · rename_i e hstring
      rw [hstring] at hk
      exact hk.error
    · rename_i k rest' hstring
      rw [hstring] at hk
      split
      · rename_i after hcolon
        have hs := ((skipSpace_suffix after).trans (suffix_of_skipSpace hcolon)).trans hk
        have hv := (hvalue (skipSpace after)).of_suffix hs
        split
        · rename_i e hread
          rw [hread] at hv
          exact hv.error
        · rename_i v behind hread
          rw [hread] at hv
          split
          · rename_i last hspace
            exact (suffix_of_skipSpace hspace).trans hv
          · rename_i more hspace
            have hmore := ((skipSpace_suffix more).trans (suffix_of_skipSpace hspace)).trans hv
            exact ((hmembers _).of_suffix hmore).map ((k, v) :: ·)
          · trivial
      · trivial
  · trivial

theorem reads_value_items_members (fuel : Nat) :
    (∀ cs, Reads cs (value fuel cs : Read (Json τ))) ∧
      (∀ cs, Reads cs (items fuel cs : Read (List (Json τ)))) ∧
      ∀ cs, Reads cs (members fuel cs : Read (List (τ × Json τ))) := by
  -- on the steps that are left; each reader calls the others with one fewer
  induction fuel with
  | zero => exact ⟨fun _ => trivial, fun _ => trivial, fun _ => trivial⟩
  | succ fuel ih =>
    obtain ⟨hvalue, hitems, hmembers⟩ := ih
    exact ⟨reads_value_succ hitems hmembers, reads_items_succ hvalue hitems,
      reads_members_succ hvalue hmembers⟩

/-- A document in which a number is too long has a run of that many digits. -/
theorem overlong_of_parseLetters {count : Nat}
    (h : (parseLetters cs : Except ParseError (Json τ)) = .error (.tooManyDigits count)) :
    OverlongLetters cs count := by
  have hdocument : (document cs : Except Refusal (Json τ)) = .error (.tooManyDigits count) := by
    unfold parseLetters at h
    split at h
    · cases h
    · rename_i e hdocument
      cases e with
      | fault what left => cases h
      | tooManyDigits count => cases h; exact hdocument
  unfold document at hdocument
  split at hdocument
  · cases hdocument
  · have hvalue := ((reads_value_items_members (τ := τ) (2 * cs.length + 2)).1
      (skipSpace cs)).of_suffix (skipSpace_suffix cs)
    split at hdocument
    · rename_i e hread
      cases hdocument
      rw [hread] at hvalue
      exact hvalue
    · split at hdocument <;> cases hdocument

theorem overlong_of_parseChars {cs : List Char} {count : Nat}
    (h : parseChars cs = .error (.tooManyDigits count)) : Overlong cs count :=
  overlongLetters_ofChars.1 (overlong_of_parseLetters h)

/-! A number that is too long is met where it is the first in an object. -/

variable {n : Nat} {rest : List Char}

end ChatHost.Json
