import ChatHost.Proofs.Text.Encoding

set_option autoImplicit false

/-!
Letters that stand next to each other. A first half of a surrogate pair right in front of a second
one reads as one character.
-/

namespace ChatHost.Text

theorem toNat_valid (c : Char) : c.toNat < 0xD800 ∨ 0xDFFF < c.toNat ∧ c.toNat < 0x110000 :=
  c.valid

theorem isHighHalf_toNat (c : Char) : isHighHalf c.toNat = false := by
  have hvalid := toNat_valid c
  simp only [isHighHalf, Bool.and_eq_false_iff, decide_eq_false_iff_not]
  omega

theorem isLowHalf_toNat (c : Char) : isLowHalf c.toNat = false := by
  have hvalid := toNat_valid c
  simp only [isLowHalf, Bool.and_eq_false_iff, decide_eq_false_iff_not]
  omega

theorem toNat_joinHalves {high low : Nat} (hhigh : isHighHalf high) (hlow : isLowHalf low) :
    (joinHalves high low).toNat = 0x10000 + (high - 0xD800) * 0x400 + (low - 0xDC00) := by
  simp only [isHighHalf, isLowHalf, Bool.and_eq_true, decide_eq_true_eq] at hhigh hlow
  have hvalid : Nat.isValidChar (0x10000 + (high - 0xD800) * 0x400 + (low - 0xDC00)) := by
    refine .inr ⟨?_, ?_⟩ <;> omega
  rw [joinHalves, charOfCode, dif_pos hvalid]
  rfl

theorem ofChars_append (cs ds : List Char) : ofChars (cs ++ ds) = ofChars cs ++ ofChars ds :=
  List.map_append

namespace Letter

theorem ofCode_toNat (c : Char) : ofCode c.toNat = .char c := by
  have hvalid := toNat_valid c
  rw [ofCode, dif_neg (by omega), charOfCode_toNat]

theorem ofCode_half (h : Fin 0x800) : ofCode (half h).code = .half h := by
  have hlt := h.isLt
  have hrange : 0xD800 ≤ (half h).code ∧ (half h).code < 0xE000 := by
    simp only [code]
    omega
  rw [ofCode, dif_pos hrange, half.injEq]
  refine Fin.ext ?_
  simp only [code]
  omega

end Letter

/-- Letters with every first half rejoined to the second half right behind it. -/
def rejoined : List Letter → List Letter
  | [] => []
  | [a] => [a]
  | a :: b :: ls =>
    if isHighHalf a.code && isLowHalf b.code then .char (joinHalves a.code b.code) :: rejoined ls
    else a :: rejoined (b :: ls)

/-- Whether no first half stands right in front of a second half. -/
def Apart (ls : List Letter) : Prop :=
  ∀ a b, [a, b] <:+: ls → ¬ (isHighHalf a.code ∧ isLowHalf b.code)

theorem apart_cons {a b : Letter} {ls : List Letter} :
    Apart (a :: b :: ls) ↔ ¬ (isHighHalf a.code ∧ isLowHalf b.code) ∧ Apart (b :: ls) := by
  constructor
  · intro h
    exact ⟨h a b ⟨[], ls, rfl⟩, fun c d hcd => h c d (hcd.trans (List.suffix_cons a _).isInfix)⟩
  · rintro ⟨hab, h⟩ c d hcd
    rcases List.infix_cons_iff.1 hcd with hprefix | hinfix
    · obtain ⟨rest, hrest⟩ := hprefix
      cases hrest
      exact hab
    · exact h c d hinfix

theorem length_rejoined_le (ls : List Letter) : (rejoined ls).length ≤ ls.length := by
  fun_induction rejoined ls with
  | case1 => exact Nat.le_refl _
  | case2 => exact Nat.le_refl _
  | case3 a b ls _ ih => simp only [List.length_cons]; omega
  | case4 a b ls _ ih => simp only [List.length_cons] at ih ⊢; omega

/-- Letters are as they were with their halves rejoined just when there is nothing to join. -/
theorem rejoined_eq_self {ls : List Letter} : rejoined ls = ls ↔ Apart ls := by
  fun_induction rejoined ls with
  | case1 => exact ⟨fun _ a b h => by simp at h, fun _ => rfl⟩
  | case2 a => exact ⟨fun _ b c h => absurd h.length_le (by simp), fun _ => rfl⟩
  | case3 a b ls h ih =>
    rw [Bool.and_eq_true] at h
    constructor
    · intro heq
      have hlength := congrArg List.length heq
      have hle := length_rejoined_le ls
      simp only [List.length_cons] at hlength
      omega
    · intro hapart
      exact absurd h (apart_cons.1 hapart).1
  | case4 a b ls h ih =>
    rw [Bool.and_eq_true] at h
    rw [List.cons.injEq, eq_self_iff_true, true_and, ih, apart_cons, and_iff_right h]

theorem apart_ofChars (cs : List Char) : Apart (ofChars cs) := by
  rintro a b hab ⟨hhigh, -⟩
  obtain ⟨c, -, rfl⟩ := List.mem_map.1 (hab.subset List.mem_cons_self)
  exact absurd hhigh (by simp [Letter.code, isHighHalf_toNat])

theorem rejoined_ofChars (cs : List Char) : rejoined (ofChars cs) = ofChars cs :=
  rejoined_eq_self.2 (apart_ofChars cs)

/-- Where rejoined letters start with a second half, so do the letters. -/
theorem isLowHalf_head_rejoined {b : Letter} {ls : List Letter} :
    ∃ c cs, rejoined (b :: ls) = c :: cs ∧ (isLowHalf c.code → isLowHalf b.code) := by
  cases ls with
  | nil => exact ⟨b, [], rfl, id⟩
  | cons d ls =>
    rw [rejoined]
    split
    · exact ⟨_, _, rfl, fun h => absurd h (by simp [Letter.code, isLowHalf_toNat])⟩
    · exact ⟨_, _, rfl, id⟩

theorem apart_rejoined (ls : List Letter) : Apart (rejoined ls) := by
  fun_induction rejoined ls with
  | case1 => exact rejoined_eq_self.1 rfl
  | case2 a => exact rejoined_eq_self.1 rfl
  | case3 a b ls h ih =>
    cases hjoined : rejoined ls with
    | nil => exact rejoined_eq_self.1 rfl
    | cons c cs =>
      rw [hjoined] at ih
      exact apart_cons.2 ⟨fun hc => absurd hc.1 (by simp [Letter.code, isHighHalf_toNat]), ih⟩
  | case4 a b ls h ih =>
    obtain ⟨c, cs, hjoined, hlow⟩ := @isLowHalf_head_rejoined b ls
    rw [hjoined] at ih ⊢
    rw [Bool.and_eq_true] at h
    exact apart_cons.2 ⟨fun hc => h ⟨hc.1, hlow hc.2⟩, ih⟩

theorem rejoined_rejoined (ls : List Letter) : rejoined (rejoined ls) = rejoined ls :=
  rejoined_eq_self.2 (apart_rejoined ls)

namespace Letters

theorem ofString_append (s t : String) : ofString (s ++ t) = ofString s ++ ofString t := by
  rw [ofString, String.toList_append, ofChars_append]
  rfl

theorem ofString_injective : Function.Injective ofString := by
  intro s t h
  have hchars : ofChars s.toList = ofChars t.toList := congrArg list h
  exact String.toList_injective ((List.map_inj_right fun _ _ => Letter.char.inj).1 hchars)

theorem append_assoc (a b c : Letters) : a ++ b ++ c = a ++ (b ++ c) :=
  congrArg mk (List.append_assoc a.list b.list c.list)

theorem append_cancel {a b b' c : Letters} (h : a ++ b ++ c = a ++ b' ++ c) : b = b' := by
  have hlist : a.list ++ b.list ++ c.list = a.list ++ b'.list ++ c.list := congrArg list h
  exact congrArg mk (List.append_cancel_left (List.append_cancel_right hlist))

def rejoined (t : Letters) : Letters :=
  ⟨Text.rejoined t.list⟩

theorem rejoined_eq_self {t : Letters} : t.rejoined = t ↔ Apart t.list := by
  rw [← Text.rejoined_eq_self]
  exact ⟨congrArg list, congrArg mk⟩

theorem rejoined_ofString (s : String) : (ofString s).rejoined = ofString s :=
  rejoined_eq_self.2 (apart_ofChars s.toList)

end Letters

end ChatHost.Text
