import ChatHost.Proofs.Decimal.Bits
import ChatHost.Proofs.Json.RoundTrip

set_option autoImplicit false

/-!
Doubles of JSON text. Every double is read as it was written: its shortest decimal rounds to it, and
a decimal is read as the double that it rounds to, wherever the point stands.
-/

namespace ChatHost

namespace Decimal

variable {n : Nat}

theorem ofAscii_append_zeros (ds : List Char) (z : Nat) :
    ofAscii (ds ++ List.replicate z '0') = ofAscii ds * 10 ^ z := by
  induction z with
  | zero => simp
  | succ z ih =>
    have hzero : '0' = digitChar 0 := rfl
    rw [List.replicate_succ', ← List.append_assoc, hzero, ofAscii_append _ (by decide), ← hzero, ih,
      pow_succ]
    ring

theorem isAsciiDigit_zeros (z : Nat) : ∀ c ∈ List.replicate z '0', Text.isAsciiDigit c := by
  intro c hc
  rw [List.eq_of_mem_replicate hc]
  rfl

theorem ofAscii_zero_cons (ds : List Char) : ofAscii ('0' :: ds) = ofAscii ds :=
  rfl

theorem ofAscii_zeros_append (z : Nat) (ds : List Char) :
    ofAscii (List.replicate z '0' ++ ds) = ofAscii ds := by
  induction z with
  | zero => rfl
  | succ z ih => rw [List.replicate_succ, List.cons_append, ofAscii_zero_cons, ih]

theorem dropTrailingZeros_append (ds : List Char) :
    ∃ z, ds = dropTrailingZeros ds ++ List.replicate z '0' := by
  refine ⟨(ds.reverse.takeWhile (· == '0')).length, ?_⟩
  have hzeros : ds.reverse.takeWhile (· == '0') =
      List.replicate (ds.reverse.takeWhile (· == '0')).length '0' :=
    List.eq_replicate_of_mem fun c hc => by simpa using List.mem_takeWhile_imp hc
  have hsplit := List.takeWhile_append_dropWhile (p := (· == '0')) (l := ds.reverse)
  rw [dropTrailingZeros, ← List.reverse_replicate, ← hzeros, ← List.reverse_append, hsplit,
    List.reverse_reverse]

/-- The digits of a positive number up to the last that is not zero. -/
theorem exists_significant (hn : 0 < n) :
    ∃ c ds z, dropTrailingZeros (digits n) = c :: ds ∧ c ≠ '0' ∧
      (∀ x ∈ c :: ds, Text.isAsciiDigit x) ∧ n = ofAscii (c :: ds) * 10 ^ z ∧
      (digits n).length = ds.length + 1 + z := by
  obtain ⟨z, hz⟩ := dropTrailingZeros_append (digits n)
  obtain ⟨c, tail, htail, -, hzero⟩ := digits_head n
  have hc : c ≠ '0' := fun h => hn.ne' (hzero h)
  have hall := isAsciiDigit_of_mem_digits n
  have hvalue := ofAscii_digits n
  cases hds : dropTrailingZeros (digits n) with
  | nil =>
    rw [hds, List.nil_append, htail] at hz
    cases z with
    | zero => cases hz
    | succ z => exact absurd (List.cons.inj hz).1 hc
  | cons d ds =>
    rw [hds] at hz
    have hd : d = c := (List.cons.inj (hz.symm.trans htail)).1
    refine ⟨d, ds, z, rfl, hd ▸ hc, fun x hx => hall x ?_, ?_, ?_⟩
    · rw [hz]
      exact List.mem_append_left _ hx
    · rw [← ofAscii_append_zeros, ← hz, hvalue]
    · simp [hz, Nat.add_right_comm]

theorem pos_of_value {e : Int} (h : 0 < (n : ℚ) * 10 ^ e) : 0 < n := by
  refine Nat.pos_of_ne_zero fun hn => ?_
  simp [hn] at h

theorem isAsciiDigit_padded (width n : Nat) : ∀ c ∈ padded width n, Text.isAsciiDigit c := by
  rw [padded]
  exact List.forall_mem_append.2 ⟨isAsciiDigit_zeros _, isAsciiDigit_of_mem_digits n⟩

theorem ofAscii_padded (width n : Nat) : ofAscii (padded width n) = n := by
  rw [padded, ofAscii_zeros_append, ofAscii_digits]

theorem padded_ne_nil (width n : Nat) : padded width n ≠ [] := by
  obtain ⟨c, ds, hds, -⟩ := digits_head n
  simp [padded, hds]

end Decimal

namespace Json

open Decimal

variable {c : Char} {ds fraction rest : List Char} {n : Nat} {power : Int}

theorem fractionPart_point (hfraction : ∀ x ∈ fraction, Text.isAsciiDigit x) (hne : fraction ≠ [])
    (hrest : StopsDigits rest) : fractionPart ('.' :: (fraction ++ rest)) = (fraction, rest) := by
  rw [fractionPart, takeWhile_digits hfraction hrest, dropWhile_digits hfraction hrest,
    if_neg (by simpa using hne)]

theorem exponentPart_signed (negative : Bool) (hds : ∀ x ∈ ds, Text.isAsciiDigit x) (hne : ds ≠ [])
    (hrest : StopsDigits rest) :
    exponentPart ('e' :: (if negative then '-' else '+') :: (ds ++ rest)) =
      (some (if negative then -(ofAscii ds : Int) else ofAscii ds), rest) := by
  have hempty : ds.isEmpty = false := by simpa using hne
  have htake := takeWhile_digits hds hrest
  have hdrop := dropWhile_digits hds hrest
  cases negative
  · simp [exponentPart, exponentSign, htake, hdrop, hempty]
  · simp [exponentPart, exponentSign, htake, hdrop, hempty]

theorem unsigned_real {cs whole text text' : List Char} {exponent : Option Int} (negative : Bool)
    (left : Nat) (hwhole : wholePart? cs = some (whole, text))
    (hfraction : fractionPart text = (fraction, text'))
    (hexponent : exponentPart text' = (exponent, rest))
    (hreal : fraction ≠ [] ∨ exponent.isSome) :
    unsigned negative left cs =
      .ok (.real (nearestScaled negative (ofAscii (whole ++ fraction))
        (exponent.getD 0 - fraction.length)), rest) := by
  have hkind : (fraction.isEmpty && exponent.isNone) = false := by
    cases exponent
    · simpa using hreal
    · simp
  simp [unsigned, hwhole, hfraction, hexponent, hkind]

/-- A text that is read as a decimal of a given value, whatever the sign before it. -/
structure Writes (text : List Char) (v : ℚ) : Prop where
  head : ∃ c cs, text = c :: cs ∧ Text.isAsciiDigit c
  read : ∀ (negative : Bool) (left : Nat) (rest : List Char), StopsNumber rest →
    ∃ (n : Nat) (e : Int), (n : ℚ) * 10 ^ e = v ∧
      unsigned negative left (text ++ rest) = .ok (.real (nearestScaled negative n e), rest)

/-- A number below one, its point behind a single zero. -/
theorem writes_below (hfraction : ∀ x ∈ fraction, Text.isAsciiDigit x) (hne : fraction ≠ []) :
    Writes ('0' :: '.' :: fraction) (ofAscii fraction * 10 ^ (-(fraction.length : Int))) where
  head := ⟨_, _, rfl, by decide⟩
  read negative left rest hrest := by
    refine ⟨ofAscii fraction, -(fraction.length : Int), rfl, ?_⟩
    rw [List.cons_append, List.cons_append, unsigned_real negative left rfl
      (fractionPart_point hfraction hne hrest.stopsDigits) (exponentPart_stopsNumber hrest)
      (.inl hne), Option.getD_none, zero_sub, List.singleton_append, ofAscii_zero_cons]

section

variable (hc : c ≠ '0') (hds : ∀ x ∈ c :: ds, Text.isAsciiDigit x)
include hc hds

theorem writes_point (hfraction : ∀ x ∈ fraction, Text.isAsciiDigit x) (hne : fraction ≠ []) :
    Writes (c :: ds ++ '.' :: fraction)
      (ofAscii (c :: ds ++ fraction) * 10 ^ (-(fraction.length : Int))) where
  head := ⟨_, _, rfl, hds c List.mem_cons_self⟩
  read negative left rest hrest := by
    refine ⟨ofAscii (c :: ds ++ fraction), -(fraction.length : Int), rfl, ?_⟩
    have htext : c :: ds ++ '.' :: fraction ++ rest = c :: ds ++ '.' :: (fraction ++ rest) :=
      List.append_assoc _ _ _
    rw [htext, unsigned_real negative left (wholePart_cons hc hds (stopsDigits_cons _ (by decide)))
      (fractionPart_point hfraction hne hrest.stopsDigits) (exponentPart_stopsNumber hrest)
      (.inl hne), Option.getD_none, zero_sub]

/-- Digits with the point behind the first of them, if there are more, and an exponent. -/
theorem writes_scaled (width : Nat) (power : Int) :
    Writes (scaled width (c :: ds) power) (ofAscii (c :: ds) * 10 ^ (power - ds.length)) where
  head := ⟨_, _, rfl, hds c List.mem_cons_self⟩
  read negative left rest hrest := by
    refine ⟨ofAscii (c :: ds), power - ds.length, rfl, ?_⟩
    have hexponent := exponentPart_signed (decide (power < 0))
      (isAsciiDigit_padded width power.natAbs) (padded_ne_nil width power.natAbs) hrest.stopsDigits
    have hpower : (if decide (power < 0) then -(power.natAbs : Int) else power.natAbs) = power := by
      simp only [decide_eq_true_eq]
      omega
    have hfirst : ∀ x ∈ [c], Text.isAsciiDigit x := by simpa using hds c List.mem_cons_self
    have hwhole (text : List Char) (htext : StopsDigits text) :
        wholePart? ([c] ++ text) = some ([c], text) :=
      wholePart_cons hc hfirst htext
    have hmark (text : List Char) : StopsDigits ('e' :: text) := stopsDigits_cons text (by decide)
    rw [ofAscii_padded, hpower] at hexponent
    cases ds with
    | nil =>
      have hread := unsigned_real negative left (hwhole _ (hmark _)) rfl hexponent (.inr rfl)
      simpa [scaled] using hread
    | cons d ds =>
      have hread := unsigned_real negative left (hwhole _ (stopsDigits_cons _ (by decide)))
        (fractionPart_point (fun x hx => hds x (List.mem_cons_of_mem c hx)) (List.cons_ne_nil d ds)
          (hmark _)) hexponent (.inr rfl)
      simpa [scaled] using hread

/-- Digits that all stand before the point, with the zeros that are missing there. -/
theorem writes_whole {k : Nat} (hlength : ds.length ≤ k) :
    Writes (c :: (ds ++ List.replicate (k - ds.length) '0') ++ ['.', '0'])
      (ofAscii (c :: ds) * 10 ^ ((k : Int) - ds.length)) := by
  have hwhole : ∀ x ∈ c :: (ds ++ List.replicate (k - ds.length) '0'), Text.isAsciiDigit x :=
    List.forall_mem_append.2 ⟨hds, isAsciiDigit_zeros _⟩
  have hvalue : ofAscii (c :: (ds ++ List.replicate (k - ds.length) '0') ++ ['0']) =
      ofAscii (c :: ds) * 10 ^ (k - ds.length) * 10 := by
    have hlast := ofAscii_append_zeros (c :: (ds ++ List.replicate (k - ds.length) '0')) 1
    have hzeros := ofAscii_append_zeros (c :: ds) (k - ds.length)
    rw [List.cons_append] at hzeros
    rwa [hzeros, pow_one] at hlast
  have hexponent : (k : Int) - ds.length = (k - ds.length : Nat) := by omega
  have hpoint := writes_point hc hwhole (isAsciiDigit_zeros 1) (by decide)
  rw [List.replicate_one, hvalue] at hpoint
  rw [hexponent, zpow_natCast]
  simpa using hpoint

/-- Digits with the point between two of them. -/
theorem writes_between {k : Nat} (hlength : k < ds.length) :
    Writes (c :: ds.take k ++ '.' :: ds.drop k)
      (ofAscii (c :: ds) * 10 ^ ((k : Int) - ds.length)) := by
  have hdigits : c :: ds.take k ++ ds.drop k = c :: ds := by
    rw [List.cons_append, List.take_append_drop]
  have hall := hds
  rw [← hdigits, List.forall_mem_append] at hall
  have hexponent : (k : Int) - ds.length = -((ds.drop k).length : Int) := by
    rw [List.length_drop]
    omega
  have hpoint := writes_point hc hall.1 hall.2 (by simpa using hlength)
  rwa [hdigits, ← hexponent] at hpoint

/-- Digits with the point where the power of the first of them has it. -/
theorem writes_plain (power : Int) :
    Writes (plain (c :: ds) power) (ofAscii (c :: ds) * 10 ^ (power - ds.length)) := by
  unfold plain
  dsimp only
  split_ifs with hpower hfraction
  · have hbelow := @writes_below (List.replicate (-power - 1).toNat '0' ++ (c :: ds))
      (List.forall_mem_append.2 ⟨isAsciiDigit_zeros _, hds⟩) (by simp)
    have hlength : (-(List.replicate (-power - 1).toNat '0' ++ (c :: ds)).length : Int) =
        power - ds.length := by
      simp only [List.length_append, List.length_replicate, List.length_cons]
      omega
    rw [ofAscii_zeros_append, hlength] at hbelow
    exact hbelow
  · obtain ⟨k, rfl⟩ := Int.eq_ofNat_of_zero_le (not_lt.1 hpower)
    have hlength : ds.length ≤ k := by simpa using hfraction
    have htake : ds.take k = ds := List.take_of_length_le hlength
    simpa [htake] using writes_whole hc hds hlength
  · obtain ⟨k, rfl⟩ := Int.eq_ofNat_of_zero_le (not_lt.1 hpower)
    have hlength : k < ds.length := by simpa using hfraction
    have hpadding : k - ds.length = 0 := Nat.sub_eq_zero_of_le hlength.le
    simpa [hpadding] using writes_between hc hds hlength

end

/-- The decimal of a double, in the layout of JSON. -/
theorem writes_positive (hn : 0 < n) (e : Int) :
    Writes (jsonLayout.positive n e) (n * 10 ^ e) := by
  obtain ⟨c, ds, z, hdrop, hc, hds, hvalue, hlength⟩ := exists_significant hn
  -- the zeros that are dropped from the digits are back in the exponent
  have hpower : e + ((digits n).length : Int) - 1 - ds.length = z + e := by
    rw [hlength]
    omega
  have hsame : (ofAscii (c :: ds) : ℚ) * 10 ^ (e + ((digits n).length : Int) - 1 - ds.length) =
      n * 10 ^ e := by
    rw [hpower, zpow_add₀ (by norm_num), zpow_natCast, ← mul_assoc]
    exact congrArg (· * (10 : ℚ) ^ e) (by rw [hvalue]; push_cast; ring)
  unfold Layout.positive
  dsimp only
  rw [hdrop, ← hsame]
  split_ifs
  · exact writes_plain hc hds _
  · exact writes_scaled hc hds _ _

theorem plainScalar_writes (τ : Type) (left : Nat) {text : List Char} {v : ℚ} (h : Writes text v)
    (negative : Bool) (hrest : StopsNumber rest) :
    ∃ (n : Nat) (e : Int), (n : ℚ) * 10 ^ e = v ∧
      (plainScalar left ((if negative then ['-'] else []) ++ text ++ rest) : Read (Json τ) Char) =
        .ok (.num (.real (nearestScaled negative n e)), rest) := by
  obtain ⟨c, cs, rfl, hc⟩ := h.head
  cases negative with
  | false =>
    obtain ⟨n, e, hv, hread⟩ := h.read false left rest hrest
    exact ⟨n, e, hv, (plainScalar_of_digit (cs ++ rest) hc).trans (congrArg (Except.map _) hread)⟩
  | true =>
    obtain ⟨n, e, hv, hread⟩ := h.read true left rest hrest
    exact ⟨n, e, hv, (plainScalar_of_minus (cs ++ rest) hc).trans (congrArg (Except.map _) hread)⟩

/-- The text of a finite double is that of a decimal, and the double is the nearest to it. -/
theorem write_finite {x : Float} {negative : Bool} {m : Nat} {q : Int}
    (hx : Binary.ofFloat x = .finite negative m q) :
    ∃ text v, jsonLayout.write x = (if negative then ['-'] else []) ++ text ∧ Writes text v ∧
      ∀ (n : Nat) (e : Int), (n : ℚ) * 10 ^ e = v → nearestScaled negative n e = x := by
  unfold Layout.write
  rw [hx]
  dsimp only
  rcases Nat.eq_zero_or_pos m with rfl | hm
  · refine ⟨['0', '.', '0'], _, by rw [if_pos rfl], writes_below (isAsciiDigit_zeros 1) (by decide),
      fun n e hv => ?_⟩
    have hvalue : ofAscii ['0'] = 0 := rfl
    have hn : n = 0 := by simpa [hvalue, zpow_ne_zero] using hv
    rw [← nearest_zero hx, hn]
    simp [nearestScaled]
  · obtain ⟨n, e, hshortest⟩ : ∃ n e, shortest m q = (n, e) := ⟨_, _, rfl⟩
    obtain ⟨-, hcanonical⟩ := ofBits_finite (toNat_toBits_lt x) hx
    have hrounds := rounds_shortest hm (hcanonical hm).lt hshortest
    have hn : 0 < n := pos_of_value (hrounds.pos hm)
    refine ⟨_, _, by rw [if_neg hm.ne', hshortest], writes_positive hn e, fun k p hv => ?_⟩
    rw [← hv] at hrounds
    exact nearestScaled_of_rounds hx hm (pos_of_value (hrounds.pos hm)) hrounds

/-- Every double is read as it was written. -/
theorem readsBack_real (x : Float) : ReadsBack (.real x) := by
  cases hx : Binary.ofFloat x with
  | nan =>
    have hwrite : jsonLayout.write x = ['N', 'a', 'N'] := by rw [Layout.write, hx]; rfl
    refine ⟨⟨_, _, hwrite, .inr (.inr (.inl rfl))⟩, fun τ left rest _ => ?_⟩
    rw [Number.write, hwrite, ← notANumber_eq hx]
    rfl
  | infinite negative =>
    have hwrite : jsonLayout.write x =
        (if negative then ['-'] else []) ++ ['I', 'n', 'f', 'i', 'n', 'i', 't', 'y'] := by
      rw [Layout.write, hx]
      rfl
    cases negative with
    | false =>
      refine ⟨⟨_, _, hwrite, .inr (.inr (.inr rfl))⟩, fun τ left rest _ => ?_⟩
      rw [Number.write, hwrite, ← infinity_eq hx]
      rfl
    | true =>
      refine ⟨⟨_, _, hwrite, .inr (.inl rfl)⟩, fun τ left rest _ => ?_⟩
      rw [Number.write, hwrite, ← infinity_eq hx]
      rfl
  | finite negative m q =>
    obtain ⟨text, v, hwrite, htext, hnearest⟩ := write_finite hx
    refine ⟨?_, fun τ left rest hrest => ?_⟩
    · obtain ⟨c, cs, rfl, hc⟩ := htext.head
      cases negative with
      | false => exact ⟨c, cs, hwrite, .inl hc⟩
      | true => exact ⟨_, _, hwrite, .inr (.inl rfl)⟩
    · obtain ⟨n, e, hv, hread⟩ := plainScalar_writes τ left htext negative hrest
      rw [Number.write, hwrite, hread, hnearest n e hv]

end Json

end ChatHost
