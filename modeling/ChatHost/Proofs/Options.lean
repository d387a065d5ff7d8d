import ChatHost.Options
import ChatHost.Proofs.Decimal.Range
import ChatHost.Proofs.Json.Overlong

set_option autoImplicit false

/-!
Reading options from a payload. They are read just if the payload is an object that describes them,
and all else is an error of one kind, but for two sorts of whole numbers: one with too many digits
and one beyond all doubles are faults.
-/

namespace ChatHost

open Text (Letters)

theorem Json.strings?_eq_some {τ : Type} {v : Json τ} {xs : List τ} :
    v.strings? = some xs ↔ v = .ofStrings xs := by
  have hitems (items : List (Json τ)) (xs : List τ) :
      items.mapM Json.str? = some xs ↔ items = xs.map .str := by
    induction items generalizing xs with
    | nil => cases xs <;> simp
    | cons item items ih =>
      rw [List.mapM_cons]
      constructor
      · intro h
        cases item with
        | str s =>
          cases hrest : items.mapM Json.str? with
          | none => simp [Json.str?, hrest] at h
          | some rest =>
            simp only [Json.str?, hrest] at h
            cases h
            rw [(ih rest).1 hrest]
            rfl
        | _ => cases h
      · intro h
        cases xs with
        | nil => cases h
        | cons x xs =>
          rw [List.map_cons, List.cons.injEq] at h
          rw [h.1, (ih xs).2 h.2]
          rfl
  cases v with
  | arr items => simpa [Json.strings?, Json.ofStrings] using hitems items xs
  | _ => simp [Json.strings?, Json.ofStrings]

namespace Options

/-- Whether options have the number that a member is, as a double. -/
inductive Steers : Option (Json Letters) → Option Number → Prop
  | absent : Steers none none
  | number (n : Number) (x : Float) (hx : n.toReal? = some x) :
      Steers (some (.num n)) (some (.real x))

/-- The endpoints among some members, under either of two keys. -/
def endpointsMember? (members : List (Letters × Json Letters)) : Option (Json Letters) :=
  (given? members "tools_sse_urls").or (given? members "tool_endpoints")

structure Describes (members : List (Letters × Json Letters)) (o : Options) : Prop where
  systemMessage : given? members "system_message" = o.systemMessage.map .str
  toolEndpoints : endpointsMember? members = o.toolEndpoints.map .ofStrings
  temperature : Steers (given? members "temperature") o.temperature
  topP : Steers (given? members "top_p") o.topP

/-- Whether a member is a whole number beyond all doubles. -/
def Exceeds (members : List (Letters × Json Letters)) (key : String) : Prop :=
  ∃ n : Int, given? members key = some (.ofInt n) ∧ Decimal.overflow ≤ n.natAbs

/-- Whether the first of the members that do not describe options is a number beyond all doubles. -/
def Overflows (members : List (Letters × Json Letters)) : Prop :=
  (∃ message : Option Letters, given? members "system_message" = message.map .str) ∧
  (∃ urls : Option (List Letters), endpointsMember? members = urls.map .ofStrings) ∧
  (Exceeds members "temperature" ∨
    (∃ t, Steers (given? members "temperature") t) ∧ Exceeds members "top_p")

def Unreadable (payload : Letters) (f : Fault) : Prop :=
  (∃ count, (Json.parseLetters payload.list : Except _ (Json Letters)) =
        .error (.tooManyDigits count) ∧
      Json.OverlongLetters payload.list count ∧ f = .tooManyDigits count) ∨
    ∃ members, Json.parseLetters payload.list = .ok (.obj members) ∧ Overflows members ∧
      f = .beyondReals

variable {members : List (Letters × Json Letters)}

theorem systemMessageOf_ok_iff {message : Option Letters} :
    systemMessageOf members = .ok message ↔
      given? members "system_message" = message.map .str := by
  unfold systemMessageOf
  cases given? members "system_message" with
  | none => cases message <;> simp
  | some v => cases v <;> cases message <;> simp [eq_comm]

theorem endpointsOf_ok_iff {urls : Option (List Letters)} :
    endpointsOf members = .ok urls ↔ endpointsMember? members = urls.map .ofStrings := by
  unfold endpointsOf endpointsMember?
  cases (given? members "tools_sse_urls").or (given? members "tool_endpoints") with
  | none => cases urls <;> simp
  | some v =>
    cases hstrings : v.strings? with
    | none =>
      cases urls with
      | none => simp [hstrings]
      | some xs =>
        have hother : v ≠ .ofStrings xs := by
          intro h
          cases hstrings.symm.trans (Json.strings?_eq_some.2 h)
        simp [hstrings, hother]
    | some xs =>
      cases Json.strings?_eq_some.1 hstrings
      cases urls with
      | none => simp [hstrings]
      | some ys =>
        have hsame : Json.ofStrings xs = .ofStrings ys ↔ xs = ys := by
          rw [← Json.strings?_eq_some, hstrings, Option.some.injEq]
        simp [hstrings, hsame]

theorem numberOf_ok_iff {key : String} {n : Option Number} :
    numberOf members key = .ok n ↔ Steers (given? members key) n := by
  unfold numberOf
  generalize given? members key = member
  constructor
  · intro h
    split at h
    · cases h
      exact .absent
    · split at h
      · rename_i x hx
        cases h
        exact .number _ x hx
      · cases h
    · cases h
  · intro h
    cases h with
    | absent => rfl
    | number n x hx => simp [hx]

theorem bind_ok_iff {ε α β : Type} {x : Except ε α} {f : α → Except ε β} {b : β} :
    x >>= f = .ok b ↔ ∃ a, x = .ok a ∧ f a = .ok b := by
  cases x with
  | error e => simp [bind, Except.bind]
  | ok a => simp [bind, Except.bind]

theorem ofMembers_ok_iff {o : Options} : ofMembers members = .ok o ↔ Describes members o := by
  simp only [ofMembers, bind_ok_iff, systemMessageOf_ok_iff, endpointsOf_ok_iff, numberOf_ok_iff]
  constructor
  · rintro ⟨message, hmessage, urls, hurls, t, ht, p, hp, heq⟩
    cases heq
    exact ⟨hmessage, hurls, ht, hp⟩
  · rintro ⟨hmessage, hurls, ht, hp⟩
    exact ⟨_, hmessage, _, hurls, _, ht, _, hp, rfl⟩

theorem parse_ok_iff {payload : Letters} {o : Options} :
    parse payload = .ok o ↔
      ∃ members, Json.parseLetters payload.list = .ok (.obj members) ∧ Describes members o := by
  unfold parse ofDocument
  cases (Json.parseLetters payload.list : Except _ (Json Letters)) with
  | error e => simp
  | ok v =>
    cases v with
    | obj members => simp [ofJson, ofMembers_ok_iff]
    | _ => simp [ofJson]

end Options

end ChatHost
