import ChatHost.Proofs.Json.Regular

set_option autoImplicit false

/-!
JSON text that is ASCII only. It has no carriage return, so that nothing happens to it between a
file and the reader.
-/

namespace ChatHost

namespace Text

/-- A character of ASCII that no reader of text files changes. -/
def IsPrinted (c : Char) : Prop :=
  c.toNat < 0x80 ∧ c ≠ '\r'

variable {s t : List Char}

theorem isPrinted_nil : ∀ c ∈ ([] : List Char), IsPrinted c :=
  fun _ hc => absurd hc List.not_mem_nil

theorem isPrinted_append (hs : ∀ c ∈ s, IsPrinted c) (ht : ∀ c ∈ t, IsPrinted c) :
    ∀ c ∈ s ++ t, IsPrinted c := by
  intro c hc
  rcases List.mem_append.1 hc with hc | hc
  · exact hs c hc
  · exact ht c hc

theorem isPrinted_replicate {d : Char} (hd : IsPrinted d) (n : Nat) :
    ∀ c ∈ List.replicate n d, IsPrinted c := by
  intro c hc
  rw [List.eq_of_mem_replicate hc]
  exact hd

end Text

namespace Decimal

open Text

theorem isPrinted_digit {c : Char} (h : isAsciiDigit c) : IsPrinted c := by
  have hc : c ≤ '9' := by
    simp only [isAsciiDigit, Bool.and_eq_true, decide_eq_true_eq] at h
    exact h.2
  have hlt : c.toNat ≤ 57 := hc
  refine ⟨by omega, fun heq => ?_⟩
  subst heq
  exact absurd h (by decide)

theorem isPrinted_digits (n : Nat) : ∀ c ∈ digits n, IsPrinted c :=
  fun c hc => isPrinted_digit (isAsciiDigit_of_mem_digits n c hc)

theorem isPrinted_zeros (n : Nat) : ∀ c ∈ List.replicate n '0', IsPrinted c :=
  isPrinted_replicate (isPrinted_digit rfl) n

variable {ds : List Char}

theorem isPrinted_dropTrailingZeros (h : ∀ c ∈ ds, IsPrinted c) :
    ∀ c ∈ dropTrailingZeros ds, IsPrinted c := by
  intro c hc
  unfold dropTrailingZeros at hc
  rw [List.mem_reverse] at hc
  exact h c (List.mem_reverse.1 ((List.dropWhile_suffix _).subset hc))

theorem isPrinted_plain (h : ∀ c ∈ ds, IsPrinted c) (power : Int) :
    ∀ c ∈ plain ds power, IsPrinted c := by
  unfold plain
  split
  · exact isPrinted_append (isPrinted_append (by simp [IsPrinted]) (isPrinted_zeros _)) h
  · refine isPrinted_append (isPrinted_append (fun c hc => h c (List.mem_of_mem_take hc))
      (isPrinted_zeros _)) (List.forall_mem_cons.2 ⟨by simp [IsPrinted], ?_⟩)
    split
    · simp [IsPrinted]
    · exact fun c hc => h c (List.mem_of_mem_drop hc)

theorem isPrinted_scaled (width : Nat) (h : ∀ c ∈ ds, IsPrinted c) (power : Int) :
    ∀ c ∈ scaled width ds power, IsPrinted c := by
  have hpadded : ∀ c ∈ padded width power.natAbs, IsPrinted c :=
    isPrinted_append (isPrinted_zeros _) (isPrinted_digits _)
  have hexponent : ∀ c ∈ ['e', if power < 0 then '-' else '+'], IsPrinted c := by
    split <;> simp [IsPrinted]
  refine isPrinted_append (isPrinted_append (isPrinted_append ?_ ?_) hexponent) hpadded
  · exact fun c hc => h c (List.mem_of_mem_take hc)
  · split
    · exact isPrinted_nil
    · exact List.forall_mem_cons.2 ⟨by simp [IsPrinted], fun c hc => h c (List.mem_of_mem_drop hc)⟩

theorem isPrinted_write (x : Float) : ∀ c ∈ jsonLayout.write x, IsPrinted c := by
  have hsign (negative : Bool) : ∀ c ∈ (if negative then ['-'] else []), IsPrinted c := by
    cases negative <;> simp [IsPrinted]
  have hdigits (n : Nat) := isPrinted_dropTrailingZeros (isPrinted_digits n)
  unfold Layout.write
  split
  · simp [jsonLayout, IsPrinted]
  · exact isPrinted_append (hsign _) (by simp [jsonLayout, IsPrinted])
  · refine isPrinted_append (hsign _) ?_
    split
    · simp [IsPrinted]
    · unfold Layout.positive
      dsimp only
      split
      · exact isPrinted_plain (hdigits _) _
      · exact isPrinted_scaled _ (hdigits _) _

theorem isPrinted_integer (n : Int) : ∀ c ∈ integer n, IsPrinted c := by
  cases n with
  | ofNat k => exact isPrinted_digits k
  | negSucc k => exact List.forall_mem_cons.2 ⟨by simp [IsPrinted], isPrinted_digits _⟩

end Decimal

namespace Json

open Text Decimal

theorem isPrinted_hex (width n : Nat) : ∀ c ∈ hex width n, IsPrinted c := by
  have hchar : ∀ d < 16, (hexChar d).toNat < 0x80 ∧ hexChar d ≠ '\r' := by decide
  induction width generalizing n with
  | zero => exact isPrinted_nil
  | succ width ih =>
    refine isPrinted_append (ih _) fun c hc => ?_
    rw [List.mem_singleton.1 hc]
    exact hchar _ (Nat.mod_lt _ (by decide))

theorem isPrinted_unitEscape (u : Nat) : ∀ x ∈ unitEscape u, IsPrinted x :=
  isPrinted_append (by simp [IsPrinted]) (isPrinted_hex 4 u)

theorem isPrinted_codeEscape (c : Char) : ∀ x ∈ codeEscape c, IsPrinted x := by
  unfold codeEscape
  split
  · exact isPrinted_unitEscape _
  · exact isPrinted_append (isPrinted_unitEscape _) (isPrinted_unitEscape _)

theorem isPrinted_escapeChar (c : Char) : ∀ x ∈ escapeChar true c, IsPrinted x := by
  unfold escapeChar
  split_ifs with _ _ _ hr _ _ _ _ hascii
  iterate 7 simp [IsPrinted]
  · exact isPrinted_codeEscape c
  · exact isPrinted_codeEscape c
  · intro x hx
    rw [List.mem_singleton.1 hx]
    simp only [Bool.true_and, decide_eq_true_eq, not_le] at hascii
    exact ⟨by omega, hr⟩

theorem isPrinted_escapeLetter (l : Letter) : ∀ x ∈ escapeLetter true l, IsPrinted x := by
  cases l with
  | char c => exact isPrinted_escapeChar c
  | half h => exact isPrinted_unitEscape _

variable {τ : Type} [Script τ]

theorem isPrinted_writeString (s : τ) : ∀ c ∈ writeString true s, IsPrinted c := by
  refine List.forall_mem_cons.2 ⟨by simp [IsPrinted], isPrinted_append (fun c hc => ?_) ?_⟩
  · obtain ⟨x, -, hx⟩ := List.mem_flatMap.1 hc
    exact isPrinted_escapeLetter x c hx
  · simp [IsPrinted]

variable (indent : Option Nat)

theorem isPrinted_newline (d : Nat) : ∀ c ∈ (Style.mk true indent).newline d, IsPrinted c := by
  unfold Style.newline
  cases indent with
  | none => exact isPrinted_nil
  | some n =>
    exact List.forall_mem_cons.2
      ⟨by simp [IsPrinted], isPrinted_replicate (by simp [IsPrinted]) _⟩

theorem isPrinted_separator (d : Nat) : ∀ c ∈ (Style.mk true indent).separator d, IsPrinted c := by
  unfold Style.separator
  cases indent with
  | none => simp [IsPrinted]
  | some n => exact List.forall_mem_cons.2 ⟨by simp [IsPrinted], isPrinted_newline (some n) d⟩

mutual

theorem isPrinted_writeAt : ∀ (d : Nat) (v : Json τ), ∀ c ∈ writeAt ⟨true, indent⟩ d v, IsPrinted c
  | _, .null | _, .bool true | _, .bool false | _, .arr [] | _, .obj [] => by
    simp [writeAt, IsPrinted]
  | _, .num (.int n) => isPrinted_integer n
  | _, .num (.real x) => isPrinted_write x
  | _, .str s => isPrinted_writeString s
  | d, .arr (item :: items) => by
    have hclose : ∀ c ∈ (Style.mk true indent).newline d ++ [']'], IsPrinted c :=
      isPrinted_append (isPrinted_newline indent d) (by simp [IsPrinted])
    have hitem := isPrinted_append (isPrinted_newline indent (d + 1))
      (isPrinted_writeAt (d + 1) item)
    have hitems := isPrinted_append hitem (isPrinted_writeItems (d + 1) items)
    rw [writeAt, List.append_assoc _ _ [']']] -- the last line end goes with the bracket
    exact List.forall_mem_cons.2 ⟨by simp [IsPrinted], isPrinted_append hitems hclose⟩
  | d, .obj ((k, v) :: ms) => by
    have hclose : ∀ c ∈ (Style.mk true indent).newline d ++ ['\x7d'], IsPrinted c :=
      isPrinted_append (isPrinted_newline indent d) (by simp [IsPrinted])
    have hkey := isPrinted_append (isPrinted_newline indent (d + 1)) (isPrinted_writeString k)
    have hcolon : ∀ c ∈ [':', ' '], IsPrinted c := by simp [IsPrinted]
    have hvalue := isPrinted_append (isPrinted_append hkey hcolon) (isPrinted_writeAt (d + 1) v)
    have hmembers := isPrinted_append hvalue (isPrinted_writeMembers (d + 1) ms)
    rw [writeAt, List.append_assoc _ _ ['\x7d']]
    exact List.forall_mem_cons.2 ⟨by simp [IsPrinted], isPrinted_append hmembers hclose⟩

theorem isPrinted_writeItems : ∀ (d : Nat) (items : List (Json τ)),
    ∀ c ∈ writeItems ⟨true, indent⟩ d items, IsPrinted c
  | _, [] => isPrinted_nil
  | d, item :: items =>
    isPrinted_append (isPrinted_append (isPrinted_separator indent d) (isPrinted_writeAt d item))
      (isPrinted_writeItems d items)

theorem isPrinted_writeMembers : ∀ (d : Nat) (ms : List (τ × Json τ)),
    ∀ c ∈ writeMembers ⟨true, indent⟩ d ms, IsPrinted c
  | _, [] => isPrinted_nil
  | d, (k, v) :: ms => by
    have hkey := isPrinted_append (isPrinted_separator indent d) (isPrinted_writeString k)
    have hcolon : ∀ c ∈ [':', ' '], IsPrinted c := by simp [IsPrinted]
    exact isPrinted_append (isPrinted_append (isPrinted_append hkey hcolon)
      (isPrinted_writeAt d v)) (isPrinted_writeMembers d ms)

end

end Json

end ChatHost
