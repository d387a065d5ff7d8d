import ChatHost.Json.Parse
import ChatHost.Proofs.Json.Scan
import ChatHost.Proofs.OrderedMap

set_option autoImplicit false

/-!
JSON text written in any style and read back. A value whose numbers are whole, whose objects have
distinct keys and whose strings have nothing to join comes back as it was, its members in their
order.
-/

namespace ChatHost.Json

open Text

mutual

/-- A value that its text stands for exactly: the numbers in it are whole and not too long, and no
object in it has two members of one key. -/
def IsPlain : Json → Prop
  | .num (.int n) => n.natAbs < 10 ^ Decimal.digitLimit
  | .num (.real _) => False
  | .arr items => ArePlain items
  | .obj ms => (OrderedMap.keys ms).Nodup ∧ MembersPlain ms
  | _ => True

def ArePlain : List Json → Prop
  | [] => True
  | item :: items => IsPlain item ∧ ArePlain items

def MembersPlain : List (String × Json) → Prop
  | [] => True
  | (_, v) :: ms => IsPlain v ∧ MembersPlain ms

end

def StartsNumber (c : Char) : Prop :=
  Text.isAsciiDigit c ∨ c = '-' ∨ c = 'N' ∨ c = 'I'

theorem StartsNumber.ne {c x : Char} (h : StartsNumber c)
    (hx : Text.isAsciiDigit x = false ∧ x ≠ '-' ∧ x ≠ 'N' ∧ x ≠ 'I') : c ≠ x := by
  rintro rfl
  obtain ⟨hdigit, hminus, hn, hi⟩ := hx
  rcases h with h | h | h | h
  · exact Bool.false_ne_true (hdigit.symm.trans h)
  · exact hminus h
  · exact hn h
  · exact hi h

/-- A number that is read as it was written. -/
structure ReadsBack (n : Number) : Prop where
  head : ∃ c cs, n.write Decimal.jsonLayout = c :: cs ∧ StartsNumber c
  read : ∀ (τ : Type) left rest, StopsNumber rest →
    (plainScalar left (n.write Decimal.jsonLayout ++ rest) : Read (Json τ) Char) =
      .ok (.num n, rest)

theorem readsBack_integer {n : Int} (hn : n.natAbs < 10 ^ Decimal.digitLimit) :
    ReadsBack (.int n) where
  head := by
    cases n with
    | ofNat k =>
      obtain ⟨c, ds, hds, hc, -⟩ := Decimal.digits_head k
      exact ⟨c, ds, hds, .inl hc⟩
    | negSucc k => exact ⟨_, _, rfl, .inr (.inl rfl)⟩
  read _ _ _ hrest := plainScalar_integer hn hrest

variable {τ : Type} [Script τ]

mutual

/-- A value that its text stands for: the numbers in it are read as they were written, nothing is
joined in its strings, and no object in it has two members of one key. -/
def IsFaithful : Json τ → Prop
  | .num n => ReadsBack n
  | .str s => IsWhole s
  | .arr items => AreFaithful items
  | .obj ms => (OrderedMap.keys ms).Nodup ∧ MembersFaithful ms
  | _ => True

def AreFaithful : List (Json τ) → Prop
  | [] => True
  | item :: items => IsFaithful item ∧ AreFaithful items

def MembersFaithful : List (τ × Json τ) → Prop
  | [] => True
  | (k, v) :: ms => IsWhole k ∧ IsFaithful v ∧ MembersFaithful ms

end

mutual

theorem IsPlain.isFaithful : ∀ {v : Json}, v.IsPlain → v.IsFaithful
  | .null, _ | .bool _, _ => trivial
  | .str s, _ => isWhole_string s
  | .num (.int _), hn => readsBack_integer hn
  | .arr _, h => ArePlain.areFaithful h
  | .obj _, h => ⟨h.1, MembersPlain.membersFaithful h.2⟩

theorem ArePlain.areFaithful : ∀ {items : List Json}, ArePlain items → AreFaithful items
  | [], _ => trivial
  | _ :: _, h => ⟨h.1.isFaithful, h.2.areFaithful⟩

theorem MembersPlain.membersFaithful : ∀ {ms : List (String × Json)}, MembersPlain ms →
    MembersFaithful ms
  | [], _ => trivial
  | (k, _) :: _, h => ⟨isWhole_string k, h.1.isFaithful, h.2.membersFaithful⟩

end

theorem skipSpace_of_not {c : Letter} (cs : List Letter) (h : isSpace c = false) :
    skipSpace (c :: cs) = c :: cs :=
  List.dropWhile_cons_of_neg (by simp [h])

theorem skipSpace_newline (st : Style) (d : Nat) (cs : List Char) :
    skipSpace (ofChars (st.newline d ++ cs)) = skipSpace (ofChars cs) := by
  rw [ofChars_append]
  refine List.dropWhile_append_of_pos fun l hl => ?_
  obtain ⟨c, hc, rfl⟩ := List.mem_map.1 hl
  unfold Style.newline at hc
  split at hc
  · exact absurd hc List.not_mem_nil
  · rcases List.mem_cons.1 hc with rfl | hc
    · rfl
    · rw [List.eq_of_mem_replicate hc]
      rfl

theorem separator_eq (st : Style) (d : Nat) :
    ∃ blanks, st.separator d = ',' :: blanks ∧
      ∀ cs, skipSpace (ofChars (blanks ++ cs)) = skipSpace (ofChars cs) := by
  obtain ⟨ascii, indent⟩ := st
  cases indent with
  | none => exact ⟨[' '], rfl, fun _ => rfl⟩
  | some n => exact ⟨_, rfl, skipSpace_newline ⟨ascii, some n⟩ d⟩

theorem stopsNumber_newline (st : Style) (d : Nat) {cs : List Char} (h : StopsNumber cs) :
    StopsNumber (st.newline d ++ cs) := by
  unfold Style.newline
  split
  · exact h
  · exact stopsNumber_cons _ (by decide)

theorem stopsNumber_separator (st : Style) (d : Nat) (cs : List Char) :
    StopsNumber (st.separator d ++ cs) := by
  obtain ⟨blanks, heq, -⟩ := separator_eq st d
  rw [heq]
  exact stopsNumber_cons _ (by decide)

/-- The text of a value starts with a character that no blank, closing bracket or mark is. -/
theorem writeAt_head (st : Style) (d : Nat) {v : Json τ} (h : v.IsFaithful) :
    ∃ c cs, writeAt st d v = c :: cs ∧ isSpace (.char c) = false ∧ c ≠ ']' ∧ c ≠ '\uFEFF' := by
  match v with
  | .null => exact ⟨_, _, rfl, by decide⟩
  | .bool true => exact ⟨_, _, rfl, by decide⟩
  | .bool false => exact ⟨_, _, rfl, by decide⟩
  | .str s => exact ⟨_, _, rfl, by decide⟩
  | .arr [] => exact ⟨_, _, rfl, by decide⟩
  | .arr (item :: items) => exact ⟨_, _, rfl, by decide⟩
  | .obj [] => exact ⟨_, _, rfl, by decide⟩
  | .obj ((k, w) :: ms) => exact ⟨_, _, rfl, by decide⟩
  | .num n =>
    obtain ⟨c, cs, hwrite, hc⟩ := h.head
    refine ⟨c, cs, hwrite, ?_, hc.ne (by decide), hc.ne (by decide)⟩
    simp only [isSpace, Bool.or_eq_false_iff, beq_eq_false_iff_ne, ne_eq, Letter.char.injEq]
    exact ⟨⟨⟨hc.ne (by decide), hc.ne (by decide)⟩, hc.ne (by decide)⟩, hc.ne (by decide)⟩

theorem skipSpace_writeAt (st : Style) (d : Nat) {v : Json τ} (h : v.IsFaithful) (cs : List Char) :
    skipSpace (ofChars (writeAt st d v ++ cs)) = ofChars (writeAt st d v ++ cs) := by
  obtain ⟨c, text, heq, hc, -⟩ := writeAt_head st d h
  rw [heq]
  exact skipSpace_of_not _ hc

/-! One step of the reader each, from what the parts come to. -/

theorem writeAt_list (st : Style) (d : Nat) (item : Json τ) (items : List (Json τ))
    (cs : List Char) :
    writeAt st d (.arr (item :: items)) ++ cs =
      '[' :: (st.newline (d + 1) ++ (writeAt st (d + 1) item ++
        (writeItems st (d + 1) items ++ (st.newline d ++ ']' :: cs)))) := by
  simp [writeAt]

theorem writeAt_object (st : Style) (d : Nat) (k : τ) (v : Json τ) (ms : List (τ × Json τ))
    (cs : List Char) :
    writeAt st d (.obj ((k, v) :: ms)) ++ cs =
      '\x7b' :: (st.newline (d + 1) ++ (writeString st.ascii k ++ (':' :: ' ' ::
        (writeAt st (d + 1) v ++ (writeMembers st (d + 1) ms ++
          (st.newline d ++ '\x7d' :: cs)))))) := by
  simp [writeAt]

theorem stopsNumber_items (st : Style) (d e : Nat) (items : List (Json τ)) (cs : List Char) :
    StopsNumber (writeItems st d items ++ (st.newline e ++ ']' :: cs)) := by
  cases items with
  | nil => exact stopsNumber_newline st e (stopsNumber_cons cs (by decide))
  | cons item items =>
    rw [writeItems, List.append_assoc, List.append_assoc]
    exact stopsNumber_separator st d _

theorem stopsNumber_members (st : Style) (d e : Nat) (ms : List (τ × Json τ))
    (cs : List Char) : StopsNumber (writeMembers st d ms ++ (st.newline e ++ '\x7d' :: cs)) := by
  cases ms with
  | nil => exact stopsNumber_newline st e (stopsNumber_cons cs (by decide))
  | cons member ms =>
    rw [writeMembers]
    simp only [List.append_assoc]
    exact stopsNumber_separator st d _

variable [BEq τ]

theorem value_of_scalar {c : Char} (fuel : Nat) (cs : List Letter) (hquote : c ≠ '\x22')
    (hbracket : c ≠ '[') (hbrace : c ≠ '\x7b') :
    (value (fuel + 1) (.char c :: cs) : Read (Json τ)) = scalar (.char c :: cs) := by
  refine value.eq_5 (.char c :: cs) fuel ?_ ?_ ?_
  all_goals
    intro rest h
    cases h
    contradiction

theorem value_plainScalar {c : Char} (fuel : Nat) {cs rest : List Char} {v : Json τ}
    (hquote : c ≠ '\x22') (hbracket : c ≠ '[') (hbrace : c ≠ '\x7b')
    (h : plainScalar (c :: cs).length (c :: cs) = .ok (v, rest)) :
    value (fuel + 1) (ofChars (c :: cs)) = .ok (v, ofChars rest) :=
  (value_of_scalar fuel _ hquote hbracket hbrace).trans (scalar_ofChars h)

theorem value_number (fuel : Nat) {n : Number} (hn : ReadsBack n) {rest : List Char}
    (hrest : StopsNumber rest) :
    value (fuel + 1) (ofChars (n.write Decimal.jsonLayout ++ rest)) =
      .ok ((.num n : Json τ), ofChars rest) := by
  obtain ⟨c, cs, hwrite, hc⟩ := hn.head
  have hread := hn.read τ (c :: (cs ++ rest)).length rest hrest
  rw [hwrite] at hread ⊢
  exact value_plainScalar fuel (hc.ne (by decide)) (hc.ne (by decide)) (hc.ne (by decide)) hread

variable {fuel : Nat} {c : Letter} {cs text rest : List Letter} {x : Json τ} {xs : List (Json τ)}
  {k : τ} {ms : List (τ × Json τ)}

theorem value_list (hcs : (skipSpace cs).head? = some c) (hc : c ≠ .char ']')
    (h : items fuel (skipSpace cs) = .ok (xs, rest)) :
    value (fuel + 1) (.char '[' :: cs) = .ok (.arr xs, rest) := by
  rw [value.eq_3]
  split
  · next heq =>
    rw [heq] at hcs
    exact absurd (Option.some.inj hcs).symm hc
  · rw [h]
    rfl

theorem value_object [LawfulBEq τ] (hcs : (skipSpace cs).head? = some c) (hc : c ≠ .char '\x7d')
    (h : members fuel (skipSpace cs) = .ok (ms, rest)) (hms : (OrderedMap.keys ms).Nodup) :
    value (fuel + 1) (.char '\x7b' :: cs) = .ok (.obj ms, rest) := by
  rw [value.eq_4]
  split
  · next heq =>
    rw [heq] at hcs
    exact absurd (Option.some.inj hcs).symm hc
  · rw [h]
    exact congrArg (fun m => Except.ok (Json.obj m, rest)) (OrderedMap.ofList_of_nodup hms)

theorem items_last (hx : value fuel cs = .ok (x, text)) (h : skipSpace text = .char ']' :: rest) :
    items (fuel + 1) cs = .ok ([x], rest) := by
  simp only [items, hx, h]

theorem items_more (more : List Letter) (hx : value fuel cs = .ok (x, text))
    (h : skipSpace text = .char ',' :: more) (hxs : items fuel (skipSpace more) = .ok (xs, rest)) :
    items (fuel + 1) cs = .ok (x :: xs, rest) := by
  simp only [items, hx, h, hxs]
  rfl

theorem members_last {body : List Letter} (hk : string cs = .ok (k, .char ':' :: .char ' ' :: body))
    (hx : value fuel (skipSpace body) = .ok (x, text)) (h : skipSpace text = .char '\x7d' :: rest) :
    members (fuel + 1) (.char '\x22' :: cs) = .ok ([(k, x)], rest) := by
  have hcolon : skipSpace (.char ':' :: .char ' ' :: body) = .char ':' :: .char ' ' :: body := rfl
  have hblank : skipSpace (.char ' ' :: body) = skipSpace body := rfl
  simp only [members, hk, hcolon, hblank, hx, h]

theorem members_more {body : List Letter} (more : List Letter)
    (hk : string cs = .ok (k, .char ':' :: .char ' ' :: body))
    (hx : value fuel (skipSpace body) = .ok (x, text)) (h : skipSpace text = .char ',' :: more)
    (hms : members fuel (skipSpace more) = .ok (ms, rest)) :
    members (fuel + 1) (.char '\x22' :: cs) = .ok ((k, x) :: ms, rest) := by
  have hcolon : skipSpace (.char ':' :: .char ' ' :: body) = .char ':' :: .char ' ' :: body := rfl
  have hblank : skipSpace (.char ' ' :: body) = skipSpace body := rfl
  simp only [members, hk, hcolon, hblank, hx, h, hms]
  rfl

-- The recursion is the reader's own, on the bound of its steps; each step of it takes a character.
mutual

/-- A value is read from the front of a text as it was written. -/
theorem value_writeAt [LawfulBEq τ] (st : Style) : ∀ (fuel d : Nat) (rest : List Char)
    (v : Json τ), v.IsFaithful → (writeAt st d v).length ≤ fuel → StopsNumber rest →
    value fuel (ofChars (writeAt st d v ++ rest)) = .ok (v, ofChars rest)
  | 0, d, rest, v, hv, hfuel, _ => by
    obtain ⟨c, cs, hhead, -⟩ := writeAt_head st d hv
    rw [hhead] at hfuel
    exact absurd hfuel (Nat.not_succ_le_zero _)
  | fuel + 1, d, rest, .null, _, _, _ =>
    value_plainScalar fuel (by decide) (by decide) (by decide) rfl
  | fuel + 1, d, rest, .bool true, _, _, _ =>
    value_plainScalar fuel (by decide) (by decide) (by decide) rfl
  | fuel + 1, d, rest, .bool false, _, _, _ =>
    value_plainScalar fuel (by decide) (by decide) (by decide) rfl
  | fuel + 1, d, rest, .num n, hn, _, hrest => value_number fuel hn hrest
  | fuel + 1, d, rest, .str s, hs, _, _ => by
    obtain ⟨body, heq, hbody⟩ := string_writeString st.ascii hs rest
    rw [writeAt, heq, ofChars, List.map_cons, value.eq_2, hbody]
    rfl
  | fuel + 1, d, rest, .arr [], _, _, _ => rfl
  | fuel + 1, d, rest, .arr (item :: items), hv, hfuel, _ => by
    obtain ⟨hitem, hitems⟩ := hv
    have hlength : (writeAt st (d + 1) item).length + (writeItems st (d + 1) items).length <
        fuel := by
      simp only [writeAt, List.length_cons, List.length_append] at hfuel
      omega
    have hread := items_writeItems st fuel (d + 1) d rest item items hitem hitems hlength
    obtain ⟨c, cs, hhead, -, hc, -⟩ := writeAt_head st (d + 1) hitem
    rw [writeAt_list]
    refine value_list (c := .char c) ?_ (fun h => hc (Letter.char.inj h)) ?_
    · rw [skipSpace_newline, skipSpace_writeAt st (d + 1) hitem, hhead]
      rfl
    · rw [skipSpace_newline, skipSpace_writeAt st (d + 1) hitem]
      exact hread
  | fuel + 1, d, rest, .obj [], _, _, _ => rfl
  | fuel + 1, d, rest, .obj ((k, v) :: ms), hv, hfuel, _ => by
    obtain ⟨hkeys, hk, hv, hms⟩ := hv
    have hlength : (writeAt st (d + 1) v).length + (writeMembers st (d + 1) ms).length < fuel := by
      simp only [writeAt, List.length_cons, List.length_append] at hfuel
      omega
    have hread := members_writeMembers st fuel (d + 1) d rest k v ms hk hv hms hlength
    rw [writeAt_object]
    refine value_object (c := .char '\x22') ?_ (by decide) ?_ hkeys
    · rw [skipSpace_newline]
      rfl
    · rw [skipSpace_newline]
      exact hread

/-- Items are read up to the closing bracket as they were written. -/
theorem items_writeItems [LawfulBEq τ] (st : Style) : ∀ (fuel d e : Nat) (rest : List Char)
    (x : Json τ) (xs : List (Json τ)), x.IsFaithful → AreFaithful xs →
    (writeAt st d x).length + (writeItems st d xs).length < fuel →
    items fuel (ofChars (writeAt st d x ++ (writeItems st d xs ++ (st.newline e ++ ']' :: rest)))) =
      .ok (x :: xs, ofChars rest)
  | 0, _, _, _, _, _, _, _, hfuel => absurd hfuel (Nat.not_lt_zero _)
  | fuel + 1, d, e, rest, x, [], hx, _, hfuel => by
    have hvalue := value_writeAt st fuel d
      (writeItems st d ([] : List (Json τ)) ++ (st.newline e ++ ']' :: rest)) x hx (by omega)
      (stopsNumber_items st d e ([] : List (Json τ)) rest)
    refine items_last hvalue ?_
    rw [writeItems, List.nil_append, skipSpace_newline]
    rfl
  | fuel + 1, d, e, rest, x, y :: ys, hx, ⟨hy, hys⟩, hfuel => by
    have hvalue := value_writeAt st fuel d
      (writeItems st d (y :: ys) ++ (st.newline e ++ ']' :: rest)) x hx (by omega)
      (stopsNumber_items st d e (y :: ys) rest)
    obtain ⟨blanks, hsep, hblanks⟩ := separator_eq st d
    have hlength : (writeAt st d y).length + (writeItems st d ys).length < fuel := by
      simp only [writeItems, hsep, List.length_cons, List.length_append] at hfuel
      omega
    have hread := items_writeItems st fuel d e rest y ys hy hys hlength
    refine items_more (ofChars (blanks ++ (writeAt st d y ++
      (writeItems st d ys ++ (st.newline e ++ ']' :: rest))))) hvalue ?_ ?_
    · rw [writeItems, hsep]
      simp only [List.append_assoc, List.cons_append]
      rfl
    · rw [hblanks, skipSpace_writeAt st d hy]
      exact hread

/-- Members are read up to the closing brace as they were written. -/
theorem members_writeMembers [LawfulBEq τ] (st : Style) : ∀ (fuel d e : Nat) (rest : List Char)
    (k : τ) (v : Json τ) (ms : List (τ × Json τ)), IsWhole k → v.IsFaithful → MembersFaithful ms →
    (writeAt st d v).length + (writeMembers st d ms).length < fuel →
    members fuel (ofChars (writeString st.ascii k ++ (':' :: ' ' :: (writeAt st d v ++
      (writeMembers st d ms ++ (st.newline e ++ '\x7d' :: rest)))))) =
      .ok ((k, v) :: ms, ofChars rest)
  | 0, _, _, _, _, _, _, _, _, _, hfuel => absurd hfuel (Nat.not_lt_zero _)
  | fuel + 1, d, e, rest, k, v, [], hk, hv, _, hfuel => by
    have hvalue := value_writeAt st fuel d
      (writeMembers st d ([] : List (τ × Json τ)) ++ (st.newline e ++ '\x7d' :: rest)) v hv
        (by omega)
      (stopsNumber_members st d e ([] : List (τ × Json τ)) rest)
    obtain ⟨body, heq, hbody⟩ := string_writeString st.ascii hk (':' :: ' ' ::
      (writeAt st d v ++ (writeMembers st d ([] : List (τ × Json τ)) ++
        (st.newline e ++ '\x7d' :: rest))))
    rw [heq]
    refine members_last hbody (by rwa [skipSpace_writeAt st d hv]) ?_
    rw [writeMembers, List.nil_append, skipSpace_newline]
    rfl
  | fuel + 1, d, e, rest, k, v, (j, w) :: ms, hk, hv, ⟨hj, hw, hms⟩, hfuel => by
    have hvalue := value_writeAt st fuel d
      (writeMembers st d ((j, w) :: ms) ++ (st.newline e ++ '\x7d' :: rest)) v hv (by omega)
      (stopsNumber_members st d e ((j, w) :: ms) rest)
    obtain ⟨body, heq, hbody⟩ := string_writeString st.ascii hk (':' :: ' ' :: (writeAt st d v ++
      (writeMembers st d ((j, w) :: ms) ++ (st.newline e ++ '\x7d' :: rest))))
    obtain ⟨blanks, hsep, hblanks⟩ := separator_eq st d
    have hlength : (writeAt st d w).length + (writeMembers st d ms).length < fuel := by
      simp only [writeMembers, hsep, List.length_cons, List.length_append] at hfuel
      omega
    have hread := members_writeMembers st fuel d e rest j w ms hj hw hms hlength
    rw [heq]
    refine members_more (ofChars (blanks ++ (writeString st.ascii j ++ (':' :: ' ' ::
      (writeAt st d w ++ (writeMembers st d ms ++ (st.newline e ++ '\x7d' :: rest)))))))
      hbody (by rwa [skipSpace_writeAt st d hv]) ?_ ?_
    · rw [writeMembers, hsep]
      simp only [List.append_assoc, List.cons_append, List.nil_append]
      rfl
    · rw [hblanks, writeString, List.cons_append, ofChars, List.map_cons,
        skipSpace_of_not _ (by decide)]
      exact hread

end

theorem parseLetters_of_faithful [LawfulBEq τ] (st : Style) {v : Json τ} (h : v.IsFaithful) :
    parseLetters (ofChars (writeAt st 0 v)) = .ok v := by
  obtain ⟨c, cs, hhead, hspace, -, hmark⟩ := writeAt_head st 0 h
  have hread := value_writeAt st (2 * (writeAt st 0 v).length + 2) 0 [] v h (by omega)
    stopsNumber_nil
  have hdocument : document (ofChars (writeAt st 0 v)) = .ok v := by
    rw [List.append_nil] at hread
    rw [document.eq_2]
    · rw [List.length_map, ← List.append_nil (writeAt st 0 v), skipSpace_writeAt st 0 h,
        List.append_nil, hread]
      rfl
    · intro tail htail
      rw [hhead, ofChars, List.map_cons] at htail
      exact hmark (Letter.char.inj (List.cons.inj htail).1)
  rw [parseLetters, hdocument]

theorem parseLetters_text [LawfulBEq τ] {v : Json τ} (h : v.IsFaithful) :
    parseLetters (Letters.ofString v.text).list = .ok v := by
  rw [Letters.ofString, text, render, String.toList_ofList, parseLetters_of_faithful compact h]

theorem parse_of_faithful (st : Style) {v : Json} (h : v.IsFaithful) :
    parse (v.render st) = .ok v := by
  rw [parse, render, String.toList_ofList, parseChars, parseLetters_of_faithful st h]

end ChatHost.Json
