import ChatHost.Text.Encoding
import Mathlib.Tactic.SplitIfs

set_option autoImplicit false

/-!
Decoding bytes as UTF-8. A byte of ASCII is its character, whatever stands around it, also where
faults are let through.
-/

namespace ChatHost.Text

theorem charOfCode_toNat (c : Char) : charOfCode c.toNat = c := by
  rw [charOfCode, dif_pos (show c.toNat.isValidChar from c.valid)]
  rfl

theorem decodeLossy_ne_nil {bytes : Bytes} (h : bytes ≠ []) : decodeLossy bytes ≠ [] := by
  cases bytes with
  | nil => exact absurd rfl h
  | cons b rest =>
    rw [decodeLossy]
    split <;> simp

def Head.extra : Head → Nat
  | .char _ extra => extra
  | .fault extra _ => extra

/-- The bytes that are read behind the first one of a character are none of ASCII. -/
theorem extra_utf8Tails (value taken high more : Nat) {low : Nat} (hlow : 0x80 ≤ low)
    (bytes : Bytes) :
    ∃ k, (utf8Tails value taken low high more bytes).extra = taken + k ∧
      ∀ b ∈ bytes.take k, 0x80 ≤ b.toNat := by
  induction more generalizing value taken low high bytes with
  | zero => exact ⟨0, by simp [utf8Tails, Head.extra]⟩
  | succ more ih =>
    cases bytes with
    | nil => exact ⟨0, by simp [utf8Tails, Head.extra]⟩
    | cons b rest =>
      rw [utf8Tails]
      split_ifs with hb
      · obtain ⟨k, hextra, htake⟩ :=
          ih (value * 64 + b.toNat % 64) (taken + 1) 0xBF (Nat.le_refl _) rest
        refine ⟨k + 1, by omega, fun x hx => ?_⟩
        rw [List.take_succ_cons, List.mem_cons] at hx
        rcases hx with rfl | hx
        · simp only [Bool.and_eq_true, decide_eq_true_eq] at hb
          omega
        · exact htake x hx
      · exact ⟨0, by simp [Head.extra]⟩

theorem extra_utf8Head (b : UInt8) (rest : Bytes) :
    ∀ x ∈ rest.take (utf8Head b rest).extra, 0x80 ≤ x.toNat := by
  have htails : ∀ value high more low, 0x80 ≤ low →
      ∀ x ∈ rest.take (utf8Tails value 0 low high more rest).extra, 0x80 ≤ x.toNat := by
    intro value high more low hlow
    obtain ⟨k, hextra, htake⟩ := extra_utf8Tails value 0 high more hlow rest
    rwa [hextra, Nat.zero_add]
  rw [utf8Head]
  split
  · simp [Head.extra]
  split
  · simp [Head.extra]
  split
  · exact htails _ _ _ _ (Nat.le_refl _)
  split
  · exact htails _ _ _ _ (by split <;> decide)
  split
  · exact htails _ _ _ _ (by split <;> decide)
  · simp [Head.extra]

theorem toNat_ascii {c : Char} (h : c.toNat < 0x80) : (UInt8.ofNat c.toNat).toNat = c.toNat := by
  rw [UInt8.toNat_ofNat', Nat.mod_eq_of_lt (by omega)]

/-- A byte of ASCII is decoded to its character wherever it stands, whatever stands around it. -/
theorem mem_decodeLossy {c : Char} (hc : c.toNat < 0x80) {bytes : Bytes}
    (h : UInt8.ofNat c.toNat ∈ bytes) : c ∈ decodeLossy bytes := by
  have hbyte := toNat_ascii hc
  -- the bytes that are skipped hold none of ASCII
  have hskip : ∀ (b : UInt8) (rest : Bytes), UInt8.ofNat c.toNat ∈ rest →
      UInt8.ofNat c.toNat ∈ rest.drop (utf8Head b rest).extra := by
    intro b rest hrest
    rw [← List.take_append_drop (utf8Head b rest).extra rest, List.mem_append] at hrest
    refine hrest.resolve_left fun htake => ?_
    have hhigh := extra_utf8Head b rest _ htake
    omega
  fun_induction decodeLossy bytes with
  | case1 => exact absurd h List.not_mem_nil
  | case2 b rest d extra hhead ih =>
    rw [List.mem_cons] at h ⊢
    rcases h with rfl | h
    · left
      rw [utf8Head, hbyte, if_pos hc] at hhead
      injection hhead with hd
      rw [← hd, charOfCode_toNat]
    · right
      have hrest := hskip b rest h
      rw [hhead] at hrest
      exact ih hrest
  | case3 b rest extra reason hhead ih =>
    rw [List.mem_cons] at h ⊢
    rcases h with rfl | h
    · rw [utf8Head, hbyte, if_pos hc] at hhead
      cases hhead
    · right
      have hrest := hskip b rest h
      rw [hhead] at hrest
      exact ih hrest

end ChatHost.Text
