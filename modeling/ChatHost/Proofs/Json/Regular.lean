import ChatHost.Proofs.Json.Real

set_option autoImplicit false

/-!
What is read from text can be written and read back. No whole number in it is too long, and no
object in it has two members of one key; to put the members in order keeps both.
-/

namespace ChatHost

namespace Decimal

theorem ofDigits_lt {ds : List Nat} (h : ∀ d ∈ ds, d < 10) : ofDigits ds < 10 ^ ds.length := by
  induction ds using List.reverseRecOn with
  | nil => decide
  | append_singleton ds d ih =>
    have hrest := ih fun e he => h e (List.mem_append_left _ he)
    have hd := h d (List.mem_append_right _ List.mem_cons_self)
    have hlast : ofDigits (ds ++ [d]) = 10 * ofDigits ds + d := by
      simp [ofDigits, List.foldl_append]
    rw [hlast, List.length_append, List.length_singleton, Nat.pow_succ]
    omega

theorem ofAscii_lt (cs : List Char) : ofAscii cs < 10 ^ cs.length := by
  have hdigits : ∀ d ∈ cs.filterMap asciiDigit?, d < 10 := by
    intro d hd
    obtain ⟨c, -, hc⟩ := List.mem_filterMap.1 hd
    unfold asciiDigit? at hc
    split at hc
    · rename_i hrange
      have hbelow : c ≤ '9' := by simp at hrange; exact hrange.2
      have : c.toNat ≤ 57 := hbelow
      cases hc
      omega
    · cases hc
  calc ofAscii cs < 10 ^ (cs.filterMap asciiDigit?).length := ofDigits_lt hdigits
    _ ≤ 10 ^ cs.length := Nat.pow_le_pow_right (by decide) (List.length_filterMap_le _ _)

end Decimal

namespace Json

mutual

/-- A value that can be written and read back: no whole number in it is too long, and no object in
it has two members of one key. -/
def IsRegular : Json → Prop
  | .num (.int n) => n.natAbs < 10 ^ Decimal.digitLimit
  | .arr items => AreRegular items
  | .obj ms => (OrderedMap.keys ms).Nodup ∧ MembersRegular ms
  | _ => True

def AreRegular : List Json → Prop
  | [] => True
  | item :: items => IsRegular item ∧ AreRegular items

def MembersRegular : List (String × Json) → Prop
  | [] => True
  | (_, v) :: ms => IsRegular v ∧ MembersRegular ms

end

mutual

def IsKeyed : Json → Prop
  | .arr items => AreKeyed items
  | .obj ms => (OrderedMap.keys ms).Nodup ∧ MembersKeyed ms
  | _ => True

def AreKeyed : List Json → Prop
  | [] => True
  | item :: items => IsKeyed item ∧ AreKeyed items

def MembersKeyed : List (String × Json) → Prop
  | [] => True
  | (_, v) :: ms => IsKeyed v ∧ MembersKeyed ms

end

mutual

theorem IsRegular.isFaithful : ∀ {v : Json}, v.IsRegular → v.IsFaithful
  | .null, _ | .bool _, _ => trivial
  | .str s, _ => isWhole_string s
  | .num (.int _), hn => readsBack_integer hn
  | .num (.real x), _ => readsBack_real x
  | .arr _, h => AreRegular.areFaithful h
  | .obj _, h => ⟨h.1, MembersRegular.membersFaithful h.2⟩

theorem AreRegular.areFaithful : ∀ {items : List Json}, AreRegular items → AreFaithful items
  | [], _ => trivial
  | _ :: _, h => ⟨h.1.isFaithful, h.2.areFaithful⟩

theorem MembersRegular.membersFaithful : ∀ {ms : List (String × Json)}, MembersRegular ms →
    MembersFaithful ms
  | [], _ => trivial
  | (k, _) :: _, h => ⟨isWhole_string k, h.1.isFaithful, h.2.membersFaithful⟩

end

theorem isWritable_integer {n : Int} :
    (Json.num (.int n)).isWritable = true ↔ n.natAbs < 10 ^ Decimal.digitLimit := by
  have hpower (k : Nat) : Nat.pow 10 k = 10 ^ k := rfl
  rw [Json.isWritable, decide_eq_true_eq, hpower]

mutual

theorem IsRegular.isWritable : ∀ {v : Json}, v.IsRegular → v.isWritable = true
  | .null, _ | .bool _, _ | .str _, _ | .num (.real _), _ => rfl
  | .num (.int _), hn => isWritable_integer.2 hn
  | .arr _, h => AreRegular.areWritable h
  | .obj _, h => MembersRegular.membersWritable h.2

theorem AreRegular.areWritable : ∀ {items : List Json}, AreRegular items →
    Json.areWritable items = true
  | [], _ => rfl
  | _ :: _, h => Bool.and_eq_true_iff.2 ⟨h.1.isWritable, h.2.areWritable⟩

theorem MembersRegular.membersWritable : ∀ {ms : List (String × Json)}, MembersRegular ms →
    Json.membersWritable ms = true
  | [], _ => rfl
  | (_, _) :: _, h => Bool.and_eq_true_iff.2 ⟨h.1.isWritable, h.2.membersWritable⟩

end

mutual

theorem IsKeyed.isRegular : ∀ {v : Json}, v.IsKeyed → v.isWritable = true → v.IsRegular
  | .null, _ | .bool _, _ | .str _, _ | .num (.real _), _ => fun _ => trivial
  | .num (.int _), _ => isWritable_integer.1
  | .arr _, h => fun hn => AreKeyed.areRegular h (by rwa [Json.isWritable] at hn)
  | .obj _, h => fun hn => ⟨h.1, MembersKeyed.membersRegular h.2 (by rwa [Json.isWritable] at hn)⟩

theorem AreKeyed.areRegular : ∀ {items : List Json}, AreKeyed items →
    Json.areWritable items = true → AreRegular items
  | [], _ => fun _ => trivial
  | _ :: _, h => fun hn => by
    rw [Json.areWritable, Bool.and_eq_true] at hn
    exact ⟨h.1.isRegular hn.1, h.2.areRegular hn.2⟩

theorem MembersKeyed.membersRegular : ∀ {ms : List (String × Json)}, MembersKeyed ms →
    Json.membersWritable ms = true → MembersRegular ms
  | [], _ => fun _ => trivial
  | (_, _) :: _, h => fun hn => by
    rw [Json.membersWritable, Bool.and_eq_true] at hn
    exact ⟨h.1.isRegular hn.1, h.2.membersRegular hn.2⟩

end

theorem areWritable_iff {items : List Json} :
    Json.areWritable items = true ↔ ∀ v ∈ items, v.isWritable = true := by
  induction items with
  | nil => simp [Json.areWritable]
  | cons v items ih => simp [Json.areWritable, ih]

theorem membersRegular_iff {ms : List (String × Json)} :
    MembersRegular ms ↔ ∀ m ∈ ms, m.2.IsRegular := by
  induction ms with
  | nil => simp [MembersRegular]
  | cons m ms ih => simp [MembersRegular, ih]

theorem areRegular_iff {items : List Json} : AreRegular items ↔ ∀ v ∈ items, v.IsRegular := by
  induction items with
  | nil => simp [AreRegular]
  | cons v items ih => simp [AreRegular, ih]

theorem areRegular_texts (ss : List String) : AreRegular (ss.map .str) := by
  refine areRegular_iff.2 fun v hv => ?_
  obtain ⟨s, -, rfl⟩ := List.mem_map.1 hv
  trivial

theorem membersWritable_iff {ms : List (String × Json)} :
    Json.membersWritable ms = true ↔ ∀ m ∈ ms, m.2.isWritable = true := by
  induction ms with
  | nil => simp [Json.membersWritable]
  | cons m ms ih => simp [Json.membersWritable, ih]

/-- Whether what a reader gives back, if it gives something, satisfies a condition. -/
def Yields {α γ : Type} (p : α → Prop) (r : Read α γ) : Prop :=
  ∀ x rest, r = .ok (x, rest) → p x

variable {α β γ : Type} {p : α → Prop} {fuel : Nat}

theorem yields_error (e : Refusal) : Yields p (.error e : Read α γ) :=
  nofun

theorem yields_ok {x : α} {rest : List γ} : Yields p (.ok (x, rest) : Read α γ) ↔ p x :=
  ⟨fun h => h x rest rfl, fun h y rest' hy => by cases hy; exact h⟩

theorem Yields.map {q : β → Prop} {r : Read α γ} {f : α → β} (h : Yields p r)
    (hpq : ∀ x, p x → q (f x)) : Yields q (r.map fun (x, rest) => (f x, rest)) := by
  cases r with
  | error e => exact yields_error e
  | ok x => exact yields_ok.2 (hpq _ (h _ _ rfl))

theorem yields_unsigned (negative : Bool) (left : Nat) (cs : List Char) :
    Yields (fun n => (Json.num n).IsRegular) (unsigned negative left cs) := by
  unfold unsigned
  split
  · exact yields_error _
  · rename_i whole rest hwhole
    dsimp only
    split
    · split
      · exact yields_error _
      · rename_i hlimit
        have hlt := Decimal.ofAscii_lt whole
        have hle := Nat.pow_le_pow_right (n := 10) (by decide) (Nat.not_lt.1 hlimit)
        refine yields_ok.2 ?_
        unfold IsRegular
        split <;> omega
    · exact yields_ok.2 trivial

theorem yields_plainScalar (left : Nat) (cs : List Char) :
    Yields IsRegular (plainScalar left cs) := by
  unfold plainScalar
  split
  · exact yields_ok.2 trivial
  · exact yields_ok.2 trivial
  · exact yields_ok.2 trivial
  · exact yields_ok.2 trivial
  · exact yields_ok.2 trivial
  · exact yields_ok.2 trivial
  · exact (yields_unsigned true _ _).map fun _ h => h
  · exact (yields_unsigned false _ _).map fun _ h => h

theorem yields_scalar (cs : List Text.Letter) : Yields IsRegular (scalar cs) := by
  unfold scalar
  dsimp only
  cases hplain : plainScalar cs.length (splitChars cs).1 with
  | error e => exact yields_error e
  | ok a => exact yields_ok.2 (yields_plainScalar _ _ _ _ hplain)

/-- The object that members make. -/
theorem isRegular_ofList {ms : List (String × Json)} (hms : MembersRegular ms) :
    (Json.obj (OrderedMap.ofList ms)).IsRegular := by
  exact ⟨OrderedMap.nodup_keys_ofList ms,
    membersRegular_iff.2 fun m hm => membersRegular_iff.1 hms m (OrderedMap.mem_of_mem_ofList hm)⟩

theorem yields_value_succ (hitems : ∀ cs, Yields AreRegular (items fuel cs))
    (hmembers : ∀ cs, Yields MembersRegular (members fuel cs)) (cs : List Text.Letter) :
    Yields IsRegular (value (fuel + 1) cs) := by
  unfold value
  split
  · rename_i rest
    have hstring : Yields (fun _ => True) (string rest : Read String) := fun _ _ _ => trivial
    exact hstring.map fun _ _ => trivial
  · split
    · exact yields_ok.2 trivial
    · exact (hitems _).map fun _ h => h
  · split
    · exact yields_ok.2 ⟨List.nodup_nil, trivial⟩
    · exact (hmembers _).map fun _ h => isRegular_ofList h
  · exact yields_scalar cs

theorem yields_items_succ (hvalue : ∀ cs, Yields IsRegular (value fuel cs))
    (hitems : ∀ cs, Yields AreRegular (items fuel cs)) (cs : List Text.Letter) :
    Yields AreRegular (items (fuel + 1) cs) := by
  unfold items
  split
  · exact yields_error _
  · rename_i x rest hread
    have hx := hvalue cs x rest hread
    split
    · exact yields_ok.2 ⟨hx, trivial⟩
    · exact (hitems _).map fun _ h => ⟨hx, h⟩
    · exact yields_error _

theorem yields_members_succ (hvalue : ∀ cs, Yields IsRegular (value fuel cs))
    (hmembers : ∀ cs, Yields MembersRegular (members fuel cs)) (cs : List Text.Letter) :
    Yields MembersRegular (members (fuel + 1) cs) := by
  unfold members
  split
  · split
    · exact yields_error _
    · split
      · split
        · exact yields_error _
        · rename_i v behind hread
          have hv := hvalue _ v behind hread
          split
          · exact yields_ok.2 ⟨hv, trivial⟩
          · exact (hmembers _).map fun _ h => ⟨hv, h⟩
          · exact yields_error _
      · exact yields_error _
  · exact yields_error _

theorem yields_value_items_members (fuel : Nat) :
    (∀ cs, Yields IsRegular (value fuel cs)) ∧ (∀ cs, Yields AreRegular (items fuel cs)) ∧
      ∀ cs, Yields MembersRegular (members fuel cs) := by
  -- on the steps that are left; each reader calls the others with one fewer
  induction fuel with
  | zero => exact ⟨fun _ => yields_error _, fun _ => yields_error _, fun _ => yields_error _⟩
  | succ fuel ih =>
    obtain ⟨hvalue, hitems, hmembers⟩ := ih
    exact ⟨yields_value_succ hitems hmembers, yields_items_succ hvalue hitems,
      yields_members_succ hvalue hmembers⟩

/-- A value that has been read can be written and read back. -/
theorem isRegular_of_parseLetters {cs : List Text.Letter} {v : Json}
    (h : parseLetters cs = .ok v) : v.IsRegular := by
  have hdocument : document cs = .ok v := by
    unfold parseLetters at h
    split at h
    · rename_i hread
      cases h
      exact hread
    · cases h
  unfold document at hdocument
  split at hdocument
  · cases hdocument
  · split at hdocument
    · cases hdocument
    · rename_i w rest hread
      have hw := (yields_value_items_members _).1 _ w rest hread
      split at hdocument <;> cases hdocument
      exact hw

theorem isRegular_of_parseChars {cs : List Char} {v : Json} (h : parseChars cs = .ok v) :
    v.IsRegular :=
  isRegular_of_parseLetters h

theorem byKey_perm (ms : List (String × Json)) : (byKey ms).Perm ms :=
  List.mergeSort_perm _ _

theorem sortedMembers_eq_map (ms : List (String × Json)) :
    sortedMembers ms = ms.map fun m => (m.1, m.2.sorted) := by
  induction ms with
  | nil => rfl
  | cons m ms ih => exact congrArg ((m.1, m.2.sorted) :: ·) ih

theorem sortedMembers_byKey (ms : List (String × Json)) :
    sortedMembers (byKey ms) = byKey (sortedMembers ms) := by
  rw [sortedMembers_eq_map, sortedMembers_eq_map]
  exact List.map_mergeSort fun _ _ _ _ => rfl

theorem byKey_byKey (ms : List (String × Json)) : byKey (byKey ms) = byKey ms := by
  refine List.mergeSort_of_pairwise (List.pairwise_mergeSort ?_ ?_ ms)
  · intro a b c hab hbc
    simp only [decide_eq_true_eq] at hab hbc ⊢
    exact String.le_trans hab hbc
  · intro a b
    simp only [Bool.or_eq_true, decide_eq_true_eq]
    exact String.le_total a.1 b.1

mutual

/-- Members that are in order stay where they are. -/
theorem sorted_sorted : ∀ v : Json, v.sorted.sorted = v.sorted
  | .null | .bool _ | .str _ | .num _ => rfl
  | .arr items => congrArg Json.arr (sortedItems_sortedItems items)
  | .obj ms => by
    have hmembers := congrArg byKey (sortedMembers_sortedMembers ms)
    simp only [sorted, sortedMembers_byKey, byKey_byKey]
    exact congrArg Json.obj hmembers

theorem sortedItems_sortedItems : ∀ items : List Json,
    sortedItems (sortedItems items) = sortedItems items
  | [] => rfl
  | item :: items => congrArg₂ List.cons (sorted_sorted item) (sortedItems_sortedItems items)

theorem sortedMembers_sortedMembers : ∀ ms : List (String × Json),
    sortedMembers (sortedMembers ms) = sortedMembers ms
  | [] => rfl
  | (k, v) :: ms =>
    congrArg₂ (fun w rest => (k, w) :: rest) (sorted_sorted v) (sortedMembers_sortedMembers ms)

end

theorem keys_sortedMembers (ms : List (String × Json)) :
    OrderedMap.keys (sortedMembers ms) = OrderedMap.keys ms := by
  simp [sortedMembers_eq_map, OrderedMap.keys]

mutual

theorem IsRegular.sorted : ∀ {v : Json}, v.IsRegular → v.sorted.IsRegular
  | .null, h | .bool _, h | .str _, h | .num _, h => h
  | .arr _, h => AreRegular.sorted h
  | .obj ms, h => by
    have hmembers := MembersRegular.sorted h.2
    have hkeys : ((byKey (sortedMembers ms)).map Prod.fst).Perm (ms.map Prod.fst) :=
      ((byKey_perm _).map _).trans (.of_eq (keys_sortedMembers ms))
    refine ⟨hkeys.nodup_iff.2 h.1, membersRegular_iff.2 fun m hm => ?_⟩
    exact membersRegular_iff.1 hmembers m ((byKey_perm _).mem_iff.1 hm)

theorem AreRegular.sorted : ∀ {items : List Json}, AreRegular items → AreRegular (sortedItems items)
  | [], _ => trivial
  | _ :: _, h => ⟨h.1.sorted, h.2.sorted⟩

theorem MembersRegular.sorted : ∀ {ms : List (String × Json)}, MembersRegular ms →
    MembersRegular (sortedMembers ms)
  | [], _ => trivial
  | (_, _) :: _, h => ⟨h.1.sorted, h.2.sorted⟩

end

end Json
end ChatHost
