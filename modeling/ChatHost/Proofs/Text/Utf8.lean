import ChatHost.Proofs.Text.Encoding
import Mathlib.Data.List.Basic

set_option autoImplicit false

/-!
UTF-8 read strictly. A character is read from bytes just where its own bytes stand, and bytes are
decoded to a text just when they are what the text is encoded as.
-/

namespace ChatHost.Text

theorem charOfCode_eq_iff {n : Nat} (h : n.isValidChar) {c : Char} :
    charOfCode n = c ↔ c.toNat = n := by
  constructor
  · rintro rfl
    rw [charOfCode, dif_pos h]
    rfl
  · rintro rfl
    exact charOfCode_toNat c

/-- The number in the bytes behind the first one of a character, six bits to a byte. -/
def codeOf (value : Nat) (tail : Bytes) : Nat :=
  tail.foldl (fun n b => n * 64 + b.toNat % 64) value

/-- Whether bytes are those behind the first one of a character, the next of them between `low` and
`high`. -/
def Continues (low high : Nat) : Bytes → Prop
  | [] => True
  | b :: tail => low ≤ b.toNat ∧ b.toNat ≤ high ∧ Continues 0x80 0xBF tail

theorem utf8Tails_eq_char {value taken low high more extra : Nat} {bytes : Bytes} {c : Char} :
    utf8Tails value taken low high more bytes = .char c extra ↔
      ∃ tail left, bytes = tail ++ left ∧ tail.length = more ∧ extra = taken + more ∧
        Continues low high tail ∧ charOfCode (codeOf value tail) = c := by
  induction more generalizing value taken low high bytes with
  | zero =>
    rw [utf8Tails, Head.char.injEq]
    constructor
    · rintro ⟨rfl, rfl⟩
      exact ⟨[], bytes, rfl, rfl, rfl, trivial, rfl⟩
    · rintro ⟨tail, left, -, hlength, rfl, -, rfl⟩
      cases List.length_eq_zero_iff.1 hlength
      exact ⟨rfl, rfl⟩
  | succ more ih =>
    cases bytes with
    | nil =>
      rw [utf8Tails]
      constructor
      · intro h
        cases h
      · rintro ⟨tail, left, hbytes, hlength, -⟩
        cases (List.append_eq_nil_iff.1 hbytes.symm).1
        cases hlength
    | cons b rest =>
      rw [utf8Tails]
      split_ifs with hb
      · rw [ih]
        simp only [Bool.and_eq_true, decide_eq_true_eq] at hb
        constructor
        · rintro ⟨tail, left, rfl, rfl, rfl, hcontinues, rfl⟩
          exact ⟨b :: tail, left, rfl, rfl, by omega, ⟨hb.1, hb.2, hcontinues⟩, rfl⟩
        · rintro ⟨tail, left, hbytes, hlength, rfl, hcontinues, rfl⟩
          cases tail with
          | nil => cases hlength
          | cons b' tail =>
            cases hbytes
            exact ⟨tail, left, rfl, Nat.succ.inj hlength, by omega, hcontinues.2.2, rfl⟩
      · constructor
        · intro h
          cases h
        · rintro ⟨tail, left, hbytes, hlength, -, hcontinues, -⟩
          cases tail with
          | nil => cases hlength
          | cons b' tail =>
            cases hbytes
            simp only [Bool.and_eq_true, decide_eq_true_eq] at hb
            exact absurd ⟨hcontinues.1, hcontinues.2.1⟩ hb

theorem ofNat_eq_iff {n : Nat} {b : UInt8} : UInt8.ofNat n = b ↔ n % 256 = b.toNat := by
  rw [← UInt8.toNat_inj, UInt8.toNat_ofNat']

/-- Whether bytes are those of the character with a number. How many there are shows in the first
one; the second one is bounded so that no number is written with more bytes than it needs, and no
half of a pair and nothing beyond the last character is written at all. -/
inductive Written (n : Nat) (b : UInt8) (tail : Bytes) : Prop
  | one (hb : b.toNat < 0x80) (htail : tail = []) (hn : n = b.toNat)
  | two (hlow : 0xC2 ≤ b.toNat) (hhigh : b.toNat < 0xE0) (hlength : tail.length = 1)
      (htail : Continues 0x80 0xBF tail) (hn : n = codeOf (b.toNat % 0x20) tail)
  | three (hlow : 0xE0 ≤ b.toNat) (hhigh : b.toNat < 0xF0) (hlength : tail.length = 2)
      (htail : Continues (if b.toNat = 0xE0 then 0xA0 else 0x80)
        (if b.toNat = 0xED then 0x9F else 0xBF) tail)
      (hn : n = codeOf (b.toNat % 0x10) tail)
  | four (hlow : 0xF0 ≤ b.toNat) (hhigh : b.toNat < 0xF5) (hlength : tail.length = 3)
      (htail : Continues (if b.toNat = 0xF0 then 0x90 else 0x80)
        (if b.toNat = 0xF4 then 0x8F else 0xBF) tail)
      (hn : n = codeOf (b.toNat % 0x08) tail)

variable {n extra : Nat} {b : UInt8} {c : Char} {tail rest : Bytes}

theorem Written.isValidChar (h : Written n b tail) : n.isValidChar := by
  cases h with
  | one hb htail hn => exact .inl (by omega)
  | two hlow hhigh hlength htail hn =>
    obtain ⟨x, rfl⟩ := List.length_eq_one_iff.1 hlength
    simp only [codeOf, List.foldl] at hn
    exact .inl (by omega)
  | three hlow hhigh hlength htail hn =>
    obtain ⟨x, y, rfl⟩ := List.length_eq_two.1 hlength
    simp only [Continues, and_true] at htail
    simp only [codeOf, List.foldl] at hn
    unfold Nat.isValidChar
    split_ifs at htail <;> omega
  | four hlow hhigh hlength htail hn =>
    obtain ⟨x, y, z, rfl⟩ := List.length_eq_three.1 hlength
    simp only [Continues, and_true] at htail
    simp only [codeOf, List.foldl] at hn
    unfold Nat.isValidChar
    split_ifs at htail <;> omega

theorem written_of_utf8EncodeChar (h : String.utf8EncodeChar c = b :: tail) :
    Written c.toNat b tail := by
  have hvalid : c.toNat < 0xD800 ∨ 0xDFFF < c.toNat ∧ c.toNat < 0x110000 := c.valid
  unfold String.utf8EncodeChar at h
  rw [show c.val.toNat = c.toNat from rfl] at h
  generalize c.toNat = n at h hvalid ⊢
  dsimp only at h
  split_ifs at h <;> obtain ⟨rfl, rfl⟩ := List.cons.inj h
  · refine .one ?_ rfl ?_ <;> rw [UInt8.toNat_ofNat'] <;> omega
  · refine .two ?_ ?_ rfl ?_ ?_
    all_goals simp only [Continues, codeOf, List.foldl, UInt8.toNat_ofNat', and_true]
    all_goals omega
  · refine .three ?_ ?_ rfl ?_ ?_
    all_goals simp only [Continues, codeOf, List.foldl, UInt8.toNat_ofNat', and_true]
    all_goals first | omega | (split_ifs <;> omega)
  · refine .four ?_ ?_ rfl ?_ ?_
    all_goals simp only [Continues, codeOf, List.foldl, UInt8.toNat_ofNat', and_true]
    all_goals first | omega | (split_ifs <;> omega)

theorem Written.utf8EncodeChar (h : Written c.toNat b tail) :
    String.utf8EncodeChar c = b :: tail := by
  unfold String.utf8EncodeChar
  rw [show c.val.toNat = c.toNat from rfl]
  generalize c.toNat = n at h ⊢
  dsimp only
  cases h with
  | one hb htail hn =>
    subst htail
    rw [if_pos (by omega), hn, UInt8.ofNat_toNat]
  | two hlow hhigh hlength htail hn =>
    obtain ⟨x, rfl⟩ := List.length_eq_one_iff.1 hlength
    simp only [Continues, and_true] at htail
    simp only [codeOf, List.foldl] at hn
    rw [if_neg (by omega), if_pos (by omega)]
    simp only [List.cons.injEq, ofNat_eq_iff, and_true]
    omega
  | three hlow hhigh hlength htail hn =>
    obtain ⟨x, y, rfl⟩ := List.length_eq_two.1 hlength
    simp only [Continues, and_true] at htail
    simp only [codeOf, List.foldl] at hn
    have hsize : 0x7FF < n ∧ n ≤ 0xFFFF := by split_ifs at htail <;> omega
    rw [if_neg (by omega), if_neg (by omega), if_pos (by omega)]
    simp only [List.cons.injEq, ofNat_eq_iff, and_true]
    split_ifs at htail <;> omega
  | four hlow hhigh hlength htail hn =>
    obtain ⟨x, y, z, rfl⟩ := List.length_eq_three.1 hlength
    simp only [Continues, and_true] at htail
    simp only [codeOf, List.foldl] at hn
    have hsize : 0xFFFF < n := by split_ifs at htail <;> omega
    rw [if_neg (by omega), if_neg (by omega), if_neg (by omega)]
    simp only [List.cons.injEq, ofNat_eq_iff, and_true]
    split_ifs at htail <;> omega

theorem utf8EncodeChar_eq_cons : String.utf8EncodeChar c = b :: tail ↔ Written c.toNat b tail :=
  ⟨written_of_utf8EncodeChar, Written.utf8EncodeChar⟩

theorem Written.utf8Head (h : Written n b tail) (left : Bytes) :
    utf8Head b (tail ++ left) = .char (charOfCode n) tail.length := by
  unfold Text.utf8Head
  cases h with
  | one hb htail hn =>
    subst htail
    rw [if_pos hb, hn]
    rfl
  | two hlow hhigh hlength htail hn =>
    rw [if_neg (by omega), if_neg (by omega), if_pos hhigh, hlength, utf8Tails_eq_char]
    exact ⟨tail, left, rfl, hlength, rfl, htail, by rw [hn]⟩
  | three hlow hhigh hlength htail hn =>
    rw [if_neg (by omega), if_neg (by omega), if_neg (by omega), if_pos hhigh, hlength]
    exact utf8Tails_eq_char.2 ⟨tail, left, rfl, hlength, rfl, htail, by rw [hn]⟩
  | four hlow hhigh hlength htail hn =>
    rw [if_neg (by omega), if_neg (by omega), if_neg (by omega), if_neg (by omega), if_pos hhigh,
      hlength]
    exact utf8Tails_eq_char.2 ⟨tail, left, rfl, hlength, rfl, htail, by rw [hn]⟩

theorem written_of_utf8Head (h : utf8Head b rest = .char c extra) :
    ∃ n tail left, rest = tail ++ left ∧ extra = tail.length ∧ Written n b tail ∧
      charOfCode n = c := by
  unfold utf8Head at h
  dsimp only at h
  split at h
  · rename_i hb
    injection h with hc hextra
    exact ⟨_, [], rest, rfl, hextra.symm, .one hb rfl rfl, hc⟩
  split at h
  · cases h
  split at h
  · rename_i hlow hhigh
    obtain ⟨tail, left, rfl, hlength, hextra, htail, hc⟩ := utf8Tails_eq_char.1 h
    exact ⟨_, tail, left, rfl, by omega, .two (by omega) hhigh hlength htail rfl, hc⟩
  split at h
  · rename_i hlow hhigh
    obtain ⟨tail, left, rfl, hlength, hextra, htail, hc⟩ := utf8Tails_eq_char.1 h
    exact ⟨_, tail, left, rfl, by omega, .three (by omega) hhigh hlength htail rfl, hc⟩
  split at h
  · rename_i hlow hhigh
    obtain ⟨tail, left, rfl, hlength, hextra, htail, hc⟩ := utf8Tails_eq_char.1 h
    exact ⟨_, tail, left, rfl, by omega, .four (by omega) hhigh hlength htail rfl, hc⟩
  · cases h

/-- A character is read from the front of bytes just when its own bytes stand there. -/
theorem utf8Head_eq_char :
    utf8Head b rest = .char c extra ↔
      ∃ tail left, rest = tail ++ left ∧ extra = tail.length ∧
        String.utf8EncodeChar c = b :: tail := by
  constructor
  · intro h
    obtain ⟨n, tail, left, hrest, hextra, hn, hc⟩ := written_of_utf8Head h
    rw [charOfCode_eq_iff hn.isValidChar] at hc
    exact ⟨tail, left, hrest, hextra, utf8EncodeChar_eq_cons.2 (hc ▸ hn)⟩
  · rintro ⟨tail, left, rfl, rfl, hbytes⟩
    rw [(utf8EncodeChar_eq_cons.1 hbytes).utf8Head, charOfCode_toNat]

theorem decodeWith_encodeUtf8 (s : List Char) (position : Nat) :
    decodeWith utf8Head .utf8 position (encodeUtf8 s) = .ok s := by
  induction s generalizing position with
  | nil => rw [show encodeUtf8 [] = [] from rfl, decodeWith]
  | cons c s ih =>
    rw [encodeUtf8, List.flatMap_cons, ← encodeUtf8]
    cases hbytes : String.utf8EncodeChar c with
    | nil => exact absurd hbytes String.utf8EncodeChar_ne_nil
    | cons b tail =>
      have hhead : utf8Head b (tail ++ encodeUtf8 s) = .char c tail.length :=
        utf8Head_eq_char.2 ⟨tail, encodeUtf8 s, rfl, rfl, hbytes⟩
      rw [List.cons_append, decodeWith, hhead]
      dsimp only
      rw [List.drop_left, ih]

/-- Bytes are decoded to a text just when they are what the text is encoded as. -/
theorem decodeUtf8_eq_ok {bytes : Bytes} {s : List Char} :
    decodeUtf8 bytes = .ok s ↔ bytes = encodeUtf8 s := by
  constructor
  · unfold decodeUtf8
    generalize (0 : Nat) = position
    intro h
    fun_induction decodeWith utf8Head .utf8 position bytes generalizing s with
    | case1 =>
      cases h
      rfl
    | case2 position b rest c extra hhead cs hrest ih =>
      cases h
      obtain ⟨tail, left, rfl, rfl, hbytes⟩ := utf8Head_eq_char.1 hhead
      rw [List.drop_left] at hrest ih
      rw [encodeUtf8, List.flatMap_cons, hbytes, ih hrest]
      rfl
    | case3 => cases h
    | case4 => cases h
  · rintro rfl
    exact decodeWith_encodeUtf8 s 0

theorem encodeUtf8_inj {s s' : List Char} : encodeUtf8 s = encodeUtf8 s' ↔ s = s' := by
  refine ⟨fun h => ?_, fun h => h ▸ rfl⟩
  exact Except.ok.inj ((decodeUtf8_eq_ok.2 rfl).symm.trans (decodeUtf8_eq_ok.2 h))

end ChatHost.Text
