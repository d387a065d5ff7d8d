import ChatHost.Json.Reader
import ChatHost.Json.Writer
import ChatHost.Proofs.Decimal.Digits
import ChatHost.Proofs.Text.Letter

set_option autoImplicit false

/-!
Whole numbers and strings of JSON text: what the writer puts down for one, the reader takes from the
front of a text again, its halves rejoined where two of them make a character.
-/

namespace ChatHost.Json

open Text

def StopsNumber (rest : List Char) : Prop :=
  ∀ c ∈ rest.head?, Text.isAsciiDigit c = false ∧ c ≠ '.' ∧ c ≠ 'e' ∧ c ≠ 'E'

theorem stopsNumber_nil : StopsNumber [] := by
  simp [StopsNumber]

theorem stopsNumber_cons {c : Char} (rest : List Char)
    (h : Text.isAsciiDigit c = false ∧ c ≠ '.' ∧ c ≠ 'e' ∧ c ≠ 'E') : StopsNumber (c :: rest) := by
  intro d hd
  rw [List.head?_cons, Option.mem_some_iff] at hd
  exact hd ▸ h

variable {rest : List Char}

/-- A text with which no run of digits goes on. -/
def StopsDigits (rest : List Char) : Prop :=
  ∀ c ∈ rest.head?, Text.isAsciiDigit c = false

theorem StopsNumber.stopsDigits (h : StopsNumber rest) : StopsDigits rest :=
  fun c hc => (h c hc).1

theorem stopsDigits_cons {c : Char} (rest : List Char) (h : Text.isAsciiDigit c = false) :
    StopsDigits (c :: rest) := by
  intro d hd
  rw [List.head?_cons, Option.mem_some_iff] at hd
  exact hd ▸ h

theorem takeWhile_digits {ds : List Char} (hds : ∀ c ∈ ds, Text.isAsciiDigit c)
    (h : StopsDigits rest) : (ds ++ rest).takeWhile Text.isAsciiDigit = ds := by
  rw [List.takeWhile_append_of_pos hds]
  cases rest with
  | nil => simp
  | cons c rest => simp [h c rfl]

theorem dropWhile_digits {ds : List Char} (hds : ∀ c ∈ ds, Text.isAsciiDigit c)
    (h : StopsDigits rest) : (ds ++ rest).dropWhile Text.isAsciiDigit = rest := by
  rw [List.dropWhile_append_of_pos hds]
  cases rest with
  | nil => rfl
  | cons c rest => simp [h c rfl]

theorem wholePart_cons {c : Char} {ds : List Char} (hc : c ≠ '0')
    (hds : ∀ x ∈ c :: ds, Text.isAsciiDigit x) (h : StopsDigits rest) :
    wholePart? (c :: ds ++ rest) = some (c :: ds, rest) := by
  have htake := takeWhile_digits hds h
  have hdrop := dropWhile_digits hds h
  rw [List.cons_append] at htake hdrop ⊢
  rw [wholePart?.eq_2 c (ds ++ rest) hc, if_pos (hds c List.mem_cons_self), htake, hdrop]

theorem wholePart_digits (n : Nat) (h : StopsNumber rest) :
    wholePart? (Decimal.digits n ++ rest) = some (Decimal.digits n, rest) := by
  obtain ⟨c, ds, hds, -, hzero⟩ := Decimal.digits_head n
  by_cases h0 : c = '0'
  · have hn : Decimal.digits n = ['0'] := by
      rw [hzero h0]
      exact Decimal.digits_of_lt (by decide)
    rw [hn]
    rfl
  · have hall := Decimal.isAsciiDigit_of_mem_digits n
    rw [hds] at hall ⊢
    exact wholePart_cons h0 hall h.stopsDigits

theorem fractionPart_stopsNumber (h : StopsNumber rest) : fractionPart rest = ([], rest) := by
  unfold fractionPart
  split
  · exact absurd rfl (h '.' rfl).2.1
  · rfl

theorem exponentPart_stopsNumber (h : StopsNumber rest) : exponentPart rest = (none, rest) := by
  cases rest with
  | nil => rfl
  | cons c rest =>
    obtain ⟨-, -, he, hE⟩ := h c rfl
    rw [exponentPart, if_neg (by simp [he, hE])]

theorem unsigned_digits (negative : Bool) (left : Nat) {n : Nat} (hn : n < 10 ^ Decimal.digitLimit)
    (h : StopsNumber rest) :
    unsigned negative left (Decimal.digits n ++ rest) =
      .ok (.int (if negative then -(n : Int) else n), rest) := by
  have hlength : ¬ Decimal.digitLimit < (Decimal.digits n).length :=
    Nat.not_lt.2 (Decimal.length_digits_le (by decide) hn)
  rw [unsigned, wholePart_digits n h]
  simp only [fractionPart_stopsNumber h, exponentPart_stopsNumber h, List.isEmpty_nil,
    Option.isNone_none, Bool.and_self, ↓reduceIte, if_neg hlength, Decimal.ofAscii_digits]

variable {τ : Type} {left : Nat}

theorem plainScalar_of_digit {c : Char} (cs : List Char) (hc : Text.isAsciiDigit c) :
    (plainScalar left (c :: cs) : Read (Json τ) Char) =
      (unsigned false left (c :: cs)).map fun (n, rest) => (.num n, rest) := by
  rw [plainScalar.eq_8 left (c :: cs)]
  all_goals
    intro rest h
    cases h
    exact absurd hc (by decide)

theorem plainScalar_of_minus {c : Char} (cs : List Char) (hc : Text.isAsciiDigit c) :
    (plainScalar left ('-' :: c :: cs) : Read (Json τ) Char) =
      (unsigned true left (c :: cs)).map fun (n, rest) => (.num n, rest) := by
  refine plainScalar.eq_7 left (c :: cs) fun rest h => ?_
  cases h
  exact absurd hc (by decide)

/-- A whole number that is not too long is read as it was written. -/
theorem plainScalar_integer {n : Int} (hn : n.natAbs < 10 ^ Decimal.digitLimit)
    (h : StopsNumber rest) :
    (plainScalar left (Decimal.integer n ++ rest) : Read (Json τ) Char) =
      .ok (.num (.int n), rest) := by
  cases n with
  | ofNat k =>
    obtain ⟨c, ds, hds, hc, -⟩ := Decimal.digits_head k
    have hread :
        unsigned false left (Decimal.digits k ++ rest) = .ok (.int (.ofNat k), rest) :=
      unsigned_digits false left hn h
    rw [Decimal.integer]
    rw [hds, List.cons_append] at hread ⊢
    rw [plainScalar_of_digit _ hc, hread]
    rfl
  | negSucc k =>
    obtain ⟨c, ds, hds, hc, -⟩ := Decimal.digits_head (k + 1)
    have hread :
        unsigned true left (Decimal.digits (k + 1) ++ rest) = .ok (.int (.negSucc k), rest) :=
      unsigned_digits true left hn h
    rw [Decimal.integer, List.cons_append]
    rw [hds, List.cons_append] at hread ⊢
    rw [plainScalar_of_minus _ hc, hread]
    rfl

theorem splitChars_ofChars (cs : List Char) : splitChars (ofChars cs) = (cs, []) := by
  induction cs with
  | nil => rfl
  | cons c cs ih => rw [ofChars, List.map_cons, splitChars, ih]

/-- Where there are only characters, the reader of letters is that of characters. -/
theorem scalar_ofChars {cs rest : List Char} {v : Json τ}
    (h : plainScalar cs.length cs = .ok (v, rest)) :
    scalar (ofChars cs) = .ok (v, ofChars rest) := by
  rw [scalar, splitChars_ofChars, List.length_map, h]
  exact congrArg (fun t => Except.ok (v, t)) (List.append_nil _)

/-! Strings, one letter after the other. -/

theorem hex4_hex {u : Nat} (hu : u < 0x10000) :
    ∃ a b c d, Decimal.hex 4 u = [a, b, c, d] ∧ hex4? (.char a) (.char b) (.char c) (.char d) =
      some u := by
  refine ⟨_, _, _, _, rfl, ?_⟩
  simp only [hex4?, hexValue?, Letter.char?, Option.bind_some,
    Decimal.hexValue_hexChar (Nat.mod_lt _ (by decide : 0 < 16))]
  refine congrArg some ?_
  omega

/-- An escape in front of more text that is no first half of a pair stands for its letter. -/
theorem stringBody_unitEscape (opening : Nat) {u : Nat} (hu : u < 0x10000)
    (hhalf : isHighHalf u = false) {t : List Letter} (ht : t ≠ []) :
    stringBody opening none (ofChars (unitEscape u) ++ t) =
      consRead (.ofCode u) (stringBody opening none t) := by
  obtain ⟨a, b, c, d, hhex, hread⟩ := hex4_hex hu
  obtain ⟨x, t, rfl⟩ := List.exists_cons_of_ne_nil ht
  rw [unitEscape, hhex]
  simp only [List.map_cons, List.map_nil, List.cons_append, List.nil_append]
  rw [stringBody.eq_3, hread]
  simp only [hhalf, Bool.false_eq_true, ↓reduceIte]

theorem lt_of_isHighHalf {u : Nat} (h : isHighHalf u) : u < 0x10000 := by
  simp only [isHighHalf, Bool.and_eq_true, decide_eq_true_eq] at h
  omega

theorem lt_of_isLowHalf {u : Nat} (h : isLowHalf u) : u < 0x10000 := by
  simp only [isLowHalf, Bool.and_eq_true, decide_eq_true_eq] at h
  omega

/-- The escape of a first half leaves it waiting for a second one. -/
theorem stringBody_highEscape (opening : Nat) {high : Nat} (hhigh : isHighHalf high)
    {t : List Letter} (ht : t ≠ []) :
    stringBody opening none (ofChars (unitEscape high) ++ t) =
      stringBody opening (some high) t := by
  obtain ⟨a, b, c, d, hhex, hread⟩ := hex4_hex (lt_of_isHighHalf hhigh)
  obtain ⟨x, t, rfl⟩ := List.exists_cons_of_ne_nil ht
  rw [unitEscape, hhex]
  simp only [List.map_cons, List.map_nil, List.cons_append, List.nil_append]
  rw [stringBody.eq_3, hread]
  simp only [hhigh, ↓reduceIte]

theorem stringBody_pair (opening : Nat) {high low : Nat} (hhigh : isHighHalf high)
    (hlow : isLowHalf low) {t : List Letter} (ht : t ≠ []) :
    stringBody opening none (ofChars (unitEscape high) ++ (ofChars (unitEscape low) ++ t)) =
      consRead (.char (joinHalves high low)) (stringBody opening none t) := by
  obtain ⟨a, b, c, d, hhex, hread⟩ := hex4_hex (lt_of_isLowHalf hlow)
  obtain ⟨x, t, rfl⟩ := List.exists_cons_of_ne_nil ht
  rw [stringBody_highEscape opening hhigh (by simp), unitEscape, hhex]
  simp only [List.map_cons, List.map_nil, List.cons_append, List.nil_append]
  rw [stringBody.eq_3, hread]
  simp only [hlow, ↓reduceIte]

/-- Whether a text starts with the escape of a second half. -/
def StartsLow (t : List Letter) : Prop :=
  ∃ a b c d u tail, t = .char '\\' :: .char 'u' :: a :: b :: c :: d :: tail ∧
    hex4? a b c d = some u ∧ isLowHalf u

/-- A first half stays alone in front of a text that does not start with the escape of a second. -/
theorem stringBody_alone (opening high : Nat) {t : List Letter} (h : ¬ StartsLow t) :
    stringBody opening (some high) t = consRead (.ofCode high) (stringBody opening none t) := by
  rw [stringBody.eq_def opening (some high), stringBody.eq_def opening none]
  split
  · rfl
  · rename_i a b c d tail
    split
    · rfl
    · split
      · rfl
      · rename_i u hread
        have hlow : isLowHalf u = false :=
          Bool.eq_false_iff.2 fun hlow => h ⟨a, b, c, d, u, _, rfl, hread, hlow⟩
        simp only [hlow, Bool.false_eq_true, ↓reduceIte]
        split <;> rfl
  · rfl
  · rfl
  · split <;> rfl
  · split
    · rfl
    · split <;> rfl

/-- The escape of a character is read as the character. -/
theorem stringBody_codeEscape (opening : Nat) (c : Char) {t : List Letter} (ht : t ≠ []) :
    stringBody opening none (ofChars (codeEscape c) ++ t) =
      consRead (.char c) (stringBody opening none t) := by
  have hvalid := toNat_valid c
  rw [codeEscape]
  split_ifs with h
  · rw [stringBody_unitEscape opening h (isHighHalf_toNat c) ht, Letter.ofCode_toNat]
  · have hhigh : isHighHalf (0xD800 + (c.toNat - 0x10000) / 0x400) := by
      simp only [isHighHalf, Bool.and_eq_true, decide_eq_true_eq]
      omega
    have hlow : isLowHalf (0xDC00 + (c.toNat - 0x10000) % 0x400) := by
      simp only [isLowHalf, Bool.and_eq_true, decide_eq_true_eq]
      omega
    have hjoin : joinHalves (0xD800 + (c.toNat - 0x10000) / 0x400)
        (0xDC00 + (c.toNat - 0x10000) % 0x400) = c := by
      have hcode : 0x10000 + (0xD800 + (c.toNat - 0x10000) / 0x400 - 0xD800) * 0x400 +
          (0xDC00 + (c.toNat - 0x10000) % 0x400 - 0xDC00) = c.toNat := by omega
      rw [joinHalves, hcode, charOfCode_toNat]
    rw [ofChars_append, List.append_assoc, stringBody_pair opening hhigh hlow ht, hjoin]

theorem stringBody_shortEscape (opening : Nat) {c e : Char} (hc : c ≠ 'u')
    (h : shortEscape? c = some e) (t : List Letter) :
    stringBody opening none (.char '\\' :: .char c :: t) =
      consRead (.char e) (stringBody opening none t) := by
  have hletter : Letter.char c ≠ .char 'u' := fun heq => hc (Letter.char.inj heq)
  rw [stringBody.eq_6 opening none (.char c) t (fun _ _ _ _ _ hu _ => hletter hu) hletter]
  simp only [Letter.char?, Option.bind_some, h]
  rfl

theorem stringBody_plain (opening : Nat) {c : Char} (hquote : c ≠ '\x22') (hslash : c ≠ '\\')
    (hcontrol : ¬ c.toNat < 0x20) (t : List Letter) :
    stringBody opening none (.char c :: t) = consRead (.char c) (stringBody opening none t) := by
  rw [stringBody.eq_7]
  · rw [if_neg fun h => hquote (Letter.char.inj h), Letter.code, if_neg hcontrol]
    rfl
  all_goals
    intros
    exact hslash (Letter.char.inj ‹_›)

/-- What the writer puts down for a character is read as the character. -/
theorem stringBody_escapeChar (opening : Nat) (ascii : Bool) (c : Char) {t : List Letter}
    (ht : t ≠ []) :
    stringBody opening none (ofChars (escapeChar ascii c) ++ t) =
      consRead (.char c) (stringBody opening none t) := by
  unfold escapeChar
  split_ifs with hquote hslash hn hr ht' hf hb hcontrol hascii
  · subst hquote
    exact stringBody_shortEscape opening (by decide) rfl t
  · subst hslash
    exact stringBody_shortEscape opening (by decide) rfl t
  · subst hn
    exact stringBody_shortEscape opening (by decide) rfl t
  · subst hr
    exact stringBody_shortEscape opening (by decide) rfl t
  · subst ht'
    exact stringBody_shortEscape opening (by decide) rfl t
  · subst hf
    exact stringBody_shortEscape opening (by decide) rfl t
  · subst hb
    exact stringBody_shortEscape opening (by decide) rfl t
  · exact stringBody_codeEscape opening c ht
  · exact stringBody_codeEscape opening c ht
  · exact stringBody_plain opening hquote hslash hcontrol t

theorem not_startsLow_unitEscape {u : Nat} (hu : u < 0x10000) (hlow : isLowHalf u = false)
    (t : List Letter) : ¬ StartsLow (ofChars (unitEscape u) ++ t) := by
  rintro ⟨a, b, c, d, v, tail, heq, hread, hv⟩
  obtain ⟨a', b', c', d', hhex, hread'⟩ := hex4_hex hu
  rw [unitEscape, hhex] at heq
  simp only [List.map_cons, List.map_nil, List.cons_append, List.nil_append, List.cons.injEq,
    true_and] at heq
  obtain ⟨rfl, rfl, rfl, rfl, -⟩ := heq
  cases hread.symm.trans hread'
  exact Bool.false_ne_true (hlow.symm.trans hv)

theorem not_startsLow_char {x : Char} (hx : x ≠ '\\') (t : List Letter) :
    ¬ StartsLow (.char x :: t) := by
  rintro ⟨_, _, _, _, _, _, heq, -⟩
  exact hx (Letter.char.inj (List.cons.inj heq).1)

theorem not_startsLow_short {x : Char} (hx : x ≠ 'u') (t : List Letter) :
    ¬ StartsLow (.char '\\' :: .char x :: t) := by
  rintro ⟨_, _, _, _, _, _, heq, -⟩
  exact hx (Letter.char.inj (List.cons.inj (List.cons.inj heq).2).1)

theorem not_startsLow_codeEscape (c : Char) (t : List Letter) :
    ¬ StartsLow (ofChars (codeEscape c) ++ t) := by
  rw [codeEscape]
  split_ifs with h
  · exact not_startsLow_unitEscape h (isLowHalf_toNat c) t
  · have hvalid := toNat_valid c
    have hlow : isLowHalf (0xD800 + (c.toNat - 0x10000) / 0x400) = false := by
      simp only [isLowHalf, Bool.and_eq_false_iff, decide_eq_false_iff_not]
      omega
    rw [ofChars_append, List.append_assoc]
    exact not_startsLow_unitEscape (by omega) hlow _

/-- What the writer puts down for a letter that is no second half does not start as one. -/
theorem not_startsLow_escapeLetter (ascii : Bool) {l : Letter} (hl : isLowHalf l.code = false)
    (t : List Letter) : ¬ StartsLow (ofChars (escapeLetter ascii l) ++ t) := by
  cases l with
  | half h =>
    have hlt := h.isLt
    exact not_startsLow_unitEscape (by simp only [Letter.code]; omega) hl t
  | char c =>
    simp only [escapeLetter, escapeChar]
    split_ifs with hquote hslash
    iterate 7 exact not_startsLow_short (by decide) t
    · exact not_startsLow_codeEscape c t
    · exact not_startsLow_codeEscape c t
    · exact not_startsLow_char hslash t

/-- What the writer puts down for a letter is read as the letter, unless it is a first half and a
second half is written behind it. -/
theorem stringBody_escapeLetter (opening : Nat) (ascii : Bool) (l : Letter) {t : List Letter}
    (ht : t ≠ []) (h : isHighHalf l.code → ¬ StartsLow t) :
    stringBody opening none (ofChars (escapeLetter ascii l) ++ t) =
      consRead l (stringBody opening none t) := by
  cases l with
  | char c => exact stringBody_escapeChar opening ascii c ht
  | half k =>
    rw [escapeLetter]
    cases hhigh : isHighHalf (Letter.half k).code with
    | true => rw [stringBody_highEscape opening hhigh ht, stringBody_alone opening _ (h hhigh),
        Letter.ofCode_half]
    | false =>
      have hlt := k.isLt
      rw [stringBody_unitEscape opening (by simp only [Letter.code]; omega) hhigh ht,
        Letter.ofCode_half]

theorem stringBody_escapes (opening : Nat) (ascii : Bool) (ls : List Letter) (rest : List Char) :
    stringBody opening none (ofChars (ls.flatMap (escapeLetter ascii) ++ '\x22' :: rest)) =
      .ok (rejoined ls, ofChars rest) := by
  fun_induction rejoined ls with
  | case1 => rfl
  | case2 a =>
    rw [List.flatMap_singleton, ofChars_append, stringBody_escapeLetter opening ascii a (by simp)]
    · rfl
    · exact fun _ => not_startsLow_char (by decide) _
  | case3 a b ls h ih =>
    rw [Bool.and_eq_true] at h
    cases a with
    | char c => exact absurd h.1 (by simp [Letter.code, isHighHalf_toNat])
    | half k =>
      cases b with
      | char c => exact absurd h.2 (by simp [Letter.code, isLowHalf_toNat])
      | half j =>
        rw [List.flatMap_cons, List.flatMap_cons, List.append_assoc, List.append_assoc,
          ofChars_append, ofChars_append, escapeLetter, escapeLetter,
          stringBody_pair opening h.1 h.2 (by simp), ih]
        rfl
  | case4 a b ls h ih =>
    rw [List.flatMap_cons, List.append_assoc, ofChars_append,
      stringBody_escapeLetter opening ascii a (by simp), ih]
    · rfl
    · intro hhigh
      have hlow : isLowHalf b.code = false :=
        Bool.eq_false_iff.2 fun hlow => h (Bool.and_eq_true_iff.2 ⟨hhigh, hlow⟩)
      rw [List.flatMap_cons, List.append_assoc, ofChars_append]
      exact not_startsLow_escapeLetter ascii hlow _

/-- A character beyond the first plane is escaped as the two halves it is made of. -/
theorem escapeLetter_joinHalves {a b : Letter} (ha : isHighHalf a.code) (hb : isLowHalf b.code) :
    escapeLetter true (.char (joinHalves a.code b.code)) =
      escapeLetter true a ++ escapeLetter true b := by
  cases a with
  | char c => exact absurd ha (by simp [Letter.code, isHighHalf_toNat])
  | half k =>
    cases b with
    | char c => exact absurd hb (by simp [Letter.code, isLowHalf_toNat])
    | half j =>
      have hjoin := toNat_joinHalves ha hb
      generalize joinHalves (Letter.half k).code (Letter.half j).code = c at hjoin ⊢
      simp only [isHighHalf, isLowHalf, Bool.and_eq_true, decide_eq_true_eq] at ha hb
      have hne {x : Char} (hx : x.toNat < 0x10000) : c ≠ x := by
        rintro rfl
        omega
      have hfirst : 0xD800 + (c.toNat - 0x10000) / 0x400 = (Letter.half k).code := by omega
      have hsecond : 0xDC00 + (c.toNat - 0x10000) % 0x400 = (Letter.half j).code := by omega
      rw [escapeLetter, escapeChar, if_neg (hne (by decide)), if_neg (hne (by decide)),
        if_neg (hne (by decide)), if_neg (hne (by decide)), if_neg (hne (by decide)),
        if_neg (hne (by decide)), if_neg (hne (by decide)), if_neg (by omega),
        if_pos (by simp; omega), codeEscape, if_neg (by omega), hfirst, hsecond]
      rfl

/-- Rejoined letters are written, in ASCII, as the letters were. -/
theorem escapes_rejoined (ls : List Letter) :
    (rejoined ls).flatMap (escapeLetter true) = ls.flatMap (escapeLetter true) := by
  fun_induction rejoined ls with
  | case1 => rfl
  | case2 a => rfl
  | case3 a b ls h ih =>
    rw [Bool.and_eq_true] at h
    rw [List.flatMap_cons, List.flatMap_cons, List.flatMap_cons, ih,
      escapeLetter_joinHalves h.1 h.2, List.append_assoc]
  | case4 a b ls h ih => rw [List.flatMap_cons, List.flatMap_cons, ih]

theorem writeString_rejoined (t : Letters) : writeString true t.rejoined = writeString true t :=
  congrArg (fun body => '\x22' :: (body ++ ['\x22'])) (escapes_rejoined t.list)

variable [Script τ]

/-- A text that its letters stand for as they are written: nothing in it is rejoined. -/
def IsWhole (s : τ) : Prop :=
  Apart (Script.letters s)

theorem isWhole_string (s : String) : IsWhole s :=
  apart_ofChars s.toList

theorem isWhole_ofString (s : String) : IsWhole (Letters.ofString s) :=
  apart_ofChars s.toList

/-- A string in which nothing is rejoined is read as it was written. -/
theorem string_writeString (ascii : Bool) {s : τ} (hs : IsWhole s) (rest : List Char) :
    ∃ body, writeString ascii s ++ rest = '\x22' :: body ∧
      string (ofChars body) = .ok (s, ofChars rest) := by
  refine ⟨(Script.letters s).flatMap (escapeLetter ascii) ++ '\x22' :: rest,
    by simp [writeString], ?_⟩
  rw [string, stringBody_escapes, rejoined_eq_self.2 hs]
  exact congrArg (fun t => Except.ok (t, ofChars rest)) (Script.ofLetters_letters s)

end ChatHost.Json
