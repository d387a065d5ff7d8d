import ChatHost.Proofs.Json.Real
import ChatHost.Proofs.Options

set_option autoImplicit false

/-!
Options as text and back. Nothing of them is lost, whatever the strings hold, and nothing that is
absent comes back as empty. Only a first half of a surrogate pair that stands right in front of a
second one is not kept: the two come back as the character that they encode.
-/

namespace ChatHost

open Text (Letters)

namespace Json

theorem areFaithful_strings {xs : List Letters} (h : ∀ x ∈ xs, IsWhole x) :
    AreFaithful (xs.map .str) := by
  induction xs with
  | nil => trivial
  | cons x xs ih =>
    rw [List.forall_mem_cons] at h
    exact ⟨h.1, ih h.2⟩

theorem isFaithful_ofOption {α : Type} {f : α → Json Letters} {a : Option α}
    (h : ∀ x ∈ a, (f x).IsFaithful) : (ofOption f a).IsFaithful := by
  cases a with
  | none => trivial
  | some x => exact h x rfl

theorem writeItems_rejoined (depth : Nat) (xs : List Letters) :
    writeItems compact depth ((xs.map Letters.rejoined).map .str) =
      writeItems compact depth (xs.map .str) := by
  induction xs with
  | nil => rfl
  | cons x xs ih =>
    have hwrite : writeAt compact depth (.str x.rejoined) = writeAt compact depth (.str x) :=
      writeString_rejoined x
    rw [List.map_cons, List.map_cons, List.map_cons, writeItems, writeItems, ih, hwrite]

theorem writeAt_rejoined (depth : Nat) (xs : List Letters) :
    writeAt compact depth (ofStrings (xs.map Letters.rejoined)) =
      writeAt compact depth (ofStrings xs) := by
  cases xs with
  | nil => rfl
  | cons x xs =>
    have hwrite : writeString compact.ascii x.rejoined = writeString compact.ascii x :=
      writeString_rejoined x
    simp only [ofStrings, List.map_cons, writeAt, hwrite, writeItems_rejoined]

end Json

namespace Options

/-- Whether a number of the options is a double, as those that are read are. -/
def IsReal (n : Option Number) : Prop :=
  ∀ a ∈ n, ∃ x, a = .real x

/-- Options with the halves in their texts rejoined. -/
def rejoined (o : Options) : Options :=
  { o with
    systemMessage := o.systemMessage.map Letters.rejoined
    toolEndpoints := o.toolEndpoints.map (List.map Letters.rejoined) }

/-- Whether in the texts of options no first half of a surrogate pair stands right in front of a
second one. -/
structure IsApart (o : Options) : Prop where
  systemMessage : ∀ t ∈ o.systemMessage, Text.Apart t.list
  toolEndpoints : ∀ urls ∈ o.toolEndpoints, ∀ t ∈ urls, Text.Apart t.list

variable {o : Options} {members : List (Letters × Json Letters)}

theorem isApart_rejoined (o : Options) : o.rejoined.IsApart where
  systemMessage t ht := by
    obtain ⟨s, -, rfl⟩ := Option.map_eq_some_iff.1 ht
    exact Text.apart_rejoined s.list
  toolEndpoints urls hurls t ht := by
    obtain ⟨ss, -, rfl⟩ := Option.map_eq_some_iff.1 hurls
    obtain ⟨s, -, rfl⟩ := List.mem_map.1 ht
    exact Text.apart_rejoined s.list

/-- Nothing stands together in texts of characters only. -/
theorem isApart_ofString (message : Option String) (urls : Option (List String))
    (t p : Option Number) :
    IsApart ⟨message.map .ofString, urls.map (List.map .ofString), t, p⟩ where
  systemMessage x hx := by
    obtain ⟨s, -, rfl⟩ := Option.map_eq_some_iff.1 hx
    exact Text.apart_ofChars s.toList
  toolEndpoints xs hxs x hx := by
    obtain ⟨ss, -, rfl⟩ := Option.map_eq_some_iff.1 hxs
    obtain ⟨s, -, rfl⟩ := List.mem_map.1 hx
    exact Text.apart_ofChars s.toList

/-- Nothing is rejoined just where nothing stands together. -/
theorem rejoined_eq_self : o.rejoined = o ↔ o.IsApart := by
  constructor
  · intro h
    exact h ▸ isApart_rejoined o
  · intro h
    obtain ⟨message, urls, temperature, topP⟩ := o
    have hmessage : message.map Letters.rejoined = message := by
      cases message with
      | none => rfl
      | some t => exact congrArg some (Letters.rejoined_eq_self.2 (h.systemMessage t rfl))
    have hurls : urls.map (List.map Letters.rejoined) = urls := by
      cases urls with
      | none => rfl
      | some urls =>
        have heach : urls.map Letters.rejoined = urls.map id := List.map_congr_left fun t ht =>
          Letters.rejoined_eq_self.2 (h.toolEndpoints urls rfl t ht)
        exact congrArg some (heach.trans (List.map_id urls))
    rw [rejoined, hmessage, hurls]

/-- The text of options is the same with the halves in them rejoined. -/
theorem text_rejoined (o : Options) : o.rejoined.text = o.text := by
  obtain ⟨message, urls, temperature, topP⟩ := o
  have hmessage : Json.writeAt Json.compact 1 (Json.ofOption .str (message.map Letters.rejoined)) =
      Json.writeAt Json.compact 1 (Json.ofOption .str message) := by
    cases message with
    | none => rfl
    | some t => exact Json.writeString_rejoined t
  have hurls : Json.writeAt Json.compact 1
      (Json.ofOption Json.ofStrings (urls.map (List.map Letters.rejoined))) =
      Json.writeAt Json.compact 1 (Json.ofOption Json.ofStrings urls) := by
    cases urls with
    | none => rfl
    | some urls => exact Json.writeAt_rejoined 1 urls
  simp only [text, Json.text, Json.render, toJson, rejoined, Json.writeAt, Json.writeMembers,
    hmessage, hurls]

theorem isFaithful_number {n : Option Number} (h : IsReal n) :
    (Json.ofOption .num n : Json Letters).IsFaithful :=
  Json.isFaithful_ofOption fun a ha => by
    obtain ⟨x, rfl⟩ := h a ha
    exact Json.readsBack_real x

theorem isFaithful_toJson (ho : o.IsApart) (ht : IsReal o.temperature) (hp : IsReal o.topP) :
    o.toJson.IsFaithful := by
  have hkeys : (["system_message", "tools_sse_urls", "temperature", "top_p"] :
      List Letters).Nodup := by decide
  exact ⟨hkeys, Json.isWhole_ofString _,
    Json.isFaithful_ofOption fun t ht => ho.systemMessage t ht, Json.isWhole_ofString _,
    Json.isFaithful_ofOption fun urls hurls =>
      Json.areFaithful_strings (ho.toolEndpoints urls hurls),
    Json.isWhole_ofString _, isFaithful_number ht, Json.isWhole_ofString _, isFaithful_number hp,
    trivial⟩

theorem steers_number {n : Option Number} (h : IsReal n) :
    Steers ((some (Json.ofOption .num n)).filter fun v => !v.isNull) n := by
  cases n with
  | none => exact .absent
  | some a =>
    obtain ⟨x, rfl⟩ := h a rfl
    exact .number (.real x) x rfl

theorem describes_toJson (ht : IsReal o.temperature) (hp : IsReal o.topP) :
    ∃ members, o.toJson = .obj members ∧ Describes members o := by
  refine ⟨_, rfl, ?_, ?_, steers_number ht, steers_number hp⟩
  · cases o.systemMessage <;> rfl
  · cases o.toolEndpoints <;> rfl

theorem parse_text (ht : IsReal o.temperature) (hp : IsReal o.topP) :
    parse o.text = .ok o.rejoined := by
  obtain ⟨members, hmembers, ho⟩ := describes_toJson (o := o.rejoined) ht hp
  have hread := Json.parseLetters_text (isFaithful_toJson (isApart_rejoined o) ht hp)
  rw [← text_rejoined]
  exact parse_ok_iff.2 ⟨members, hread.trans (congrArg Except.ok hmembers), ho⟩

theorem Steers.isReal {v : Option (Json Letters)} {n : Option Number} (h : Steers v n) :
    IsReal n := by
  cases h with
  | absent => simp [IsReal]
  | number a x hx => simp [IsReal]

/-- Options that were read lose nothing by being written and read again but for the halves that are
rejoined. -/
theorem Describes.parse_text (h : Describes members o) : parse o.text = .ok o.rejoined :=
  Options.parse_text h.temperature.isReal h.topP.isReal

theorem isReal_map (x : Option Float) : IsReal (x.map .real) := by
  intro a ha
  obtain ⟨y, -, rfl⟩ := Option.map_eq_some_iff.1 ha
  exact ⟨y, rfl⟩

theorem parse_text_iff (h : Describes members o) : parse o.text = .ok o ↔ o.IsApart := by
  rw [h.parse_text, Except.ok.injEq, rejoined_eq_self]

theorem describes_of_document {document : Except Json.ParseError (Json Letters)}
    (h : ofDocument document = .ok o) : ∃ members, Describes members o := by
  unfold ofDocument at h
  split at h
  · cases h
  · rename_i v
    cases v with
    | obj members => exact ⟨members, ofMembers_ok_iff.1 h⟩
    | _ => cases h

/-- Options whose texts have characters only are read from their own text just as they are, with any
system message, any endpoints or none, and any doubles. Options that were read, from the members of
an object, from a text or from bytes, are not changed by being written and read again, whatever else
there was beside them, but for this: a first half of a surrogate pair right in front of a second one
comes back as the character that the two encode. So just those without such halves are kept. -/
theorem text_restores :
    (∀ (message : Option String) (urls : Option (List String)) (t p : Option Float),
      let o : Options := ⟨message.map .ofString, urls.map (List.map .ofString), t.map .real,
        p.map .real⟩
      parse o.text = .ok o) ∧
    (∀ members o, ofMembers members = .ok o → parse o.text = .ok o.rejoined) ∧
    (∀ payload o, parse payload = .ok o → parse o.text = .ok o.rejoined) ∧
    (∀ bytes o, parseBytes bytes = .ok o → parse o.text = .ok o.rejoined) ∧
    ∀ o : Options, o.rejoined = o ↔ o.IsApart := by
  refine ⟨fun message urls t p => ?_, ?_, ?_, ?_, fun o => rejoined_eq_self⟩
  · have hread := parse_text (o := ⟨message.map .ofString, urls.map (List.map .ofString),
      t.map .real, p.map .real⟩) (isReal_map t) (isReal_map p)
    rwa [rejoined_eq_self.2 (isApart_ofString message urls _ _)] at hread
  · intro members o ho
    exact (ofMembers_ok_iff.1 ho).parse_text
  · intro payload o ho
    obtain ⟨members, hmembers⟩ := describes_of_document ho
    exact hmembers.parse_text
  · intro bytes o ho
    obtain ⟨members, hmembers⟩ := describes_of_document ho
    exact hmembers.parse_text

def half : Float :=
  Decimal.nearest false 1 2

/-- The endpoints under their other key, a member that is null, one of another name, a whole number,
and a message with characters that are escaped. -/
def mixedMembers : List (Letters × Json Letters) :=
  [("tools_sse_urls", .null), ("tool_endpoints", .arr []), ("note", .bool true),
    ("system_message", .str "Say \x22hi\x22\n\u20ac"), ("temperature", .num (.int 1)),
    ("top_p", .num (.real half))]

def mixed : Options :=
  ⟨some "Say \x22hi\x22\n\u20ac", some [], some (.real (Decimal.nearest false 1 1)),
    some (.real half)⟩

/-- A payload whose only endpoint has a first half, as an escape, and a second one, as it is. -/
def halvesPayload : Letters :=
  .ofString "\x7b\x22tools_sse_urls\x22: [\x22x\\ud800" ++ ⟨[.half 0x400]⟩ ++
    .ofString "\x22]\x7d"

theorem exists_parse_halvesPayload :
    ∃ o, parse halvesPayload = .ok o ∧
      o.toolEndpoints = some [⟨[.char 'x', .half 0, .half 0x400]⟩] := by
  have hurls : (parse halvesPayload).toOption.bind toolEndpoints =
      some [⟨[.char 'x', .half 0, .half 0x400]⟩] := by decide +kernel
  cases hread : parse halvesPayload with
  | error e =>
    rw [hread] at hurls
    cases hurls
  | ok o =>
    rw [hread] at hurls
    exact ⟨o, rfl, hurls⟩

theorem rejoined_halves (h : o.toolEndpoints = some [⟨[.char 'x', .half 0, .half 0x400]⟩]) :
    o.rejoined.toolEndpoints = some [⟨[.char 'x', .char (Char.ofNat 0x10000)]⟩] := by
  show o.toolEndpoints.map (List.map Letters.rejoined) = _
  rw [h]
  decide +kernel

theorem not_isApart_halves (h : o.toolEndpoints = some [⟨[.char 'x', .half 0, .half 0x400]⟩]) :
    ¬o.IsApart := by
  intro hapart
  have hjoined := rejoined_halves h
  rw [rejoined_eq_self.2 hapart, h] at hjoined
  exact absurd hjoined (by decide +kernel)

theorem text_restores_mixed :
    ofMembers [] = .ok {} ∧ parse (text {}) = .ok {} ∧
      parse (Json.obj mixedMembers).text = .ok mixed ∧ parse mixed.text = .ok mixed ∧
      ∃ o, parse halvesPayload = .ok o ∧ parse o.text = .ok o.rejoined ∧
        o.rejoined.toolEndpoints = some [⟨[.char 'x', .char (Char.ofNat 0x10000)]⟩] := by
  have hone : Decimal.ofInt? 1 = some (Decimal.nearest false 1 1) := if_neg (by decide +kernel)
  have hdescribes : Describes mixedMembers mixed :=
    ⟨rfl, rfl, .number (.int 1) _ hone, .number (.real half) _ rfl⟩
  have hempty : ofMembers [] = .ok {} := rfl
  have hkey := Json.isWhole_ofString
  have hfaithful : (Json.obj mixedMembers).IsFaithful :=
    ⟨by decide, hkey _, trivial, hkey _, trivial, hkey _, trivial, hkey _, hkey _, hkey _,
      Json.readsBack_integer (by decide +kernel), hkey _, Json.readsBack_real half, trivial⟩
  have hparse : parse (Json.obj mixedMembers).text = .ok mixed :=
    parse_ok_iff.2 ⟨mixedMembers, Json.parseLetters_text hfaithful, hdescribes⟩
  have hmixed : parse mixed.text = .ok mixed :=
    text_restores.1 (some "Say \x22hi\x22\n\u20ac") (some [])
      (some (Decimal.nearest false 1 1)) (some half)
  obtain ⟨o, ho, hurls⟩ := exists_parse_halvesPayload
  refine ⟨hempty, text_restores.2.1 _ _ hempty, hparse, hmixed, o, ho,
    text_restores.2.2.1 _ _ ho, rejoined_halves hurls⟩

/-- Options that were read from a payload are not always what is read from their text. -/
theorem halves_not_restored :
    ¬∀ (payload : Letters) (o : Options), parse payload = .ok o → parse o.text = .ok o := by
  intro h
  obtain ⟨o, ho, hurls⟩ := exists_parse_halvesPayload
  obtain ⟨members, hmembers⟩ := describes_of_document ho
  exact not_isApart_halves hurls ((parse_text_iff hmembers).1 (h _ _ ho))

end Options

end ChatHost
