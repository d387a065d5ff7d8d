import ChatHost.Proofs.Text.Encoding
import ChatHost.Url.Percent

set_option autoImplicit false

/-!
What percent-decoding keeps: a character of ASCII that is neither the percent sign nor a
hexadecimal digit stands in the decoded text when it stands in the text.
-/

namespace ChatHost.Url

theorem unescape_ne_nil {s : List Char} (h : s ≠ []) : unescape s ≠ [] := by
  unfold unescape
  split
  · split <;> simp
  · simp
  · exact absurd rfl h

theorem percentDecode_nil : percentDecode [] = [] := by
  rw [percentDecode, decodeFrom, List.reverse_nil, unescape, Text.decodeLossy]

/-- Nothing is decoded to nothing but nothing. -/
theorem percentDecode_ne_nil {s : List Char} (h : s ≠ []) : percentDecode s ≠ [] := by
  have hfrom : ∀ run s : List Char, run ++ s ≠ [] → decodeFrom run s ≠ [] := by
    intro run s
    induction s generalizing run with
    | nil =>
      intro hrun
      rw [List.append_nil] at hrun
      exact Text.decodeLossy_ne_nil (unescape_ne_nil (by simpa using hrun))
    | cons c s ih =>
      intro _
      rw [decodeFrom]
      split
      · exact ih (c :: run) (by simp)
      · simp
  exact hfrom [] s h

/-- Whether a character counts for nothing in an escape: it is of ASCII, but neither the percent
sign nor a hexadecimal digit. -/
structure IsBare (c : Char) : Prop where
  ascii : isAscii c
  sign : c ≠ '%'
  digit : Decimal.hexValue? c = none

theorem IsBare.mem_unescape {c : Char} (hc : IsBare c) {s : List Char} (h : c ∈ s) :
    UInt8.ofNat c.toNat ∈ unescape s := by
  fun_induction unescape s with
  | case1 a b rest x y hy hx ih =>
    have ha : c ≠ a := by
      rintro rfl
      rw [hc.digit] at hx
      cases hx
    have hb : c ≠ b := by
      rintro rfl
      rw [hc.digit] at hy
      cases hy
    simp only [List.mem_cons, hc.sign, ha, hb, false_or] at h
    exact List.mem_cons_of_mem _ (ih h)
  | case2 a b rest hnot ih =>
    exact List.mem_cons_of_mem _ (ih ((List.mem_cons.1 h).resolve_left hc.sign))
  | case3 d rest hnot ih =>
    rcases List.mem_cons.1 h with rfl | h
    · exact List.mem_cons_self
    · exact List.mem_cons_of_mem _ (ih h)
  | case4 => exact absurd h List.not_mem_nil

theorem IsBare.mem_percentDecode {c : Char} (hc : IsBare c) {s : List Char} (h : c ∈ s) :
    c ∈ percentDecode s := by
  have hascii : c.toNat < 0x80 := by simpa [isAscii] using hc.ascii
  have hfrom : ∀ run s : List Char, c ∈ run ++ s → c ∈ decodeFrom run s := by
    intro run s
    induction s generalizing run with
    | nil =>
      intro hrun
      exact Text.mem_decodeLossy hascii (hc.mem_unescape (by simpa using hrun))
    | cons d s ih =>
      intro hrun
      rw [decodeFrom]
      split_ifs with hd
      · exact ih (d :: run) (by simpa [or_left_comm] using hrun)
      · rw [List.mem_append, List.mem_cons]
        rcases List.mem_append.1 hrun with hrun | hrun
        · exact .inl (Text.mem_decodeLossy hascii (hc.mem_unescape (List.mem_reverse.2 hrun)))
        · exact .inr ((List.mem_cons.1 hrun).imp_right (ih [] ·))
  exact hfrom [] s h

end ChatHost.Url
