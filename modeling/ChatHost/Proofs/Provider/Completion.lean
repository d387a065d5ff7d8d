import ChatHost.Proofs.Provider.Processes

set_option autoImplicit false

/-!
What becomes of the answer of an inference server. It gives a message, or it is reported as one that
cannot be used; but there is no report on choices that are neither a list nor a text, though they
are not empty. Of these none is the first, and the failure to find it passes through.
-/

namespace ChatHost

theorem Role.ofName?_eq_some {s : String} {r : Role} : Role.ofName? s = some r ↔ s = r.name := by
  constructor
  · intro h
    have hname := List.find?_some h
    exact (of_decide_eq_true hname).symm
  · intro h
    subst h
    cases r <;> rfl

namespace Completion

/-- Whether a message is spoken in a role. One that names no role is the assistant's. -/
def SpokenBy (message : Json) (r : Role) : Prop :=
  message.member? "role" = some (.str r.name) ∨
    r = .assistant ∧ ∀ v, message.member? "role" = some v → v.isTruthy = false

/-- Whether an answer gives a message: the one that the first of its choices holds. -/
def Gives (answer : Json) (m : Message String) : Prop :=
  ∃ choice others message,
    answer.member? "choices" = some (.arr (choice :: others)) ∧
    choice.member? "message" = some message ∧
    message.member? "content" = some (.str m.content) ∧ SpokenBy message m.role

/-- Choices that are not empty, though none of them is the first, and the fault of looking for
it. -/
inductive Headless : Json → Fault → Prop
  | truth : Headless (.bool true) (.mistyped "'bool' object is not subscriptable")
  | number (n : Number) (hn : n.isNonzero = true) :
      Headless (.num n) (.mistyped s!"'{(Json.num n).typeWord}' object is not subscriptable")
  | object (first : String × Json) (others : List (String × Json)) :
      Headless (.obj (first :: others)) (.noSuchKey "0")

theorem roleValue_names {message : Json} {r : Role} :
    (roleValue message).str?.bind Role.ofName? = some r ↔ SpokenBy message r := by
  have hassistant : (Json.str Role.assistant.name).str?.bind Role.ofName? = some r ↔
      r = .assistant := by
    show Role.ofName? Role.assistant.name = some r ↔ r = .assistant
    cases r <;> decide
  unfold roleValue SpokenBy
  cases hrole : message.member? "role" with
  | none => simp [hassistant]
  | some v =>
    by_cases hv : v.isTruthy = true
    · cases v with
      | str s => simp [hv, Json.str?, Role.ofName?_eq_some]
      | _ => simp [hv, Json.str?]
    · have hname : v ≠ .str r.name := by
        intro h
        subst h
        revert hv
        cases r <;> decide
      simp [hv, hassistant, hname]

theorem messageOf_ok_iff {message : Json} {m : Message String} :
    messageOf message = .ok m ↔
      message.member? "content" = some (.str m.content) ∧ SpokenBy message m.role := by
  rw [← roleValue_names]
  unfold messageOf
  split
  · rename_i content hcontent
    dsimp only
    split
    · rename_i role hrole
      constructor
      · intro h
        cases h
        exact ⟨hcontent, hrole⟩
      · rintro ⟨hm, hr⟩
        cases hcontent.symm.trans hm
        cases hrole.symm.trans hr
        rfl
    · rename_i hrole
      simp [hrole]
  · rename_i hcontent
    constructor
    · intro h
      cases h
    · intro h
      exact absurd h.1 (hcontent m.content)

theorem messageOf_error {message : Json} {e : Failure ProviderError}
    (h : messageOf message = .error e) : ∃ text, e = unusable text := by
  unfold messageOf at h
  split at h
  · dsimp only at h
    split at h
    · cases h
    · cases h
      exact ⟨_, rfl⟩
  · cases h
    exact ⟨_, rfl⟩

theorem firstChoice_error_iff {choices : Json} {f : Fault} (h : choices.isTruthy = true) :
    firstChoice choices = .error f ↔ Headless choices f := by
  constructor
  · intro hf
    cases choices with
    | null => cases h
    | bool b =>
      cases b with
      | false => cases h
      | true => cases hf; exact .truth
    | num n => cases hf; exact .number n h
    | str s => cases hf
    | arr items => cases items <;> cases hf
    | obj members =>
      cases members with
      | nil => cases h
      | cons first others => cases hf; exact .object first others
  · intro hf
    cases hf <;> rfl

theorem Headless.isTruthy {choices : Json} {f : Fault} (h : Headless choices f) :
    choices.isTruthy = true := by
  cases h with
  | truth => rfl
  | number n hn => exact hn
  | object first others => rfl

/-- Of what is not empty only a list has a first item with members. -/
theorem firstChoice_member {choices choice v : Json} {k : String} (h : choices.isTruthy = true)
    (hfirst : firstChoice choices = .ok choice) (hv : choice.member? k = some v) :
    ∃ others, choices = .arr (choice :: others) := by
  cases choices with
  -- the first of a text is a character, and this has no members
  | str s => cases hfirst; cases hv
  | arr items =>
    cases items with
    | nil => cases h
    | cons first others => cases hfirst; exact ⟨others, rfl⟩
  | _ => cases hfirst

/-- The ways in which an answer is read: it has no choices, or none of them is the first, or all
depends on the first. -/
theorem read_cases (answer : Json) :
    read answer = .error (unusable "Inference server response has no choices") ∨
      ∃ choices, answer.member? "choices" = some choices ∧ choices.isTruthy = true ∧
        ((∃ f, firstChoice choices = .error f ∧ read answer = .error (.fault f)) ∨
          ∃ choice, firstChoice choices = .ok choice ∧
            read answer = messageOf ((choice.member? "message").getD .null)) := by
  unfold read
  cases hchoices : answer.member? "choices" with
  | none => exact .inl rfl
  | some choices =>
    by_cases htruthy : choices.isTruthy = true
    · right
      refine ⟨choices, rfl, htruthy, ?_⟩
      cases hfirst : firstChoice choices with
      | error f => exact .inl ⟨f, rfl, by simp [htruthy, hfirst]⟩
      | ok choice => exact .inr ⟨choice, rfl, by simp [htruthy, hfirst]⟩
    · left
      simp [htruthy]

theorem read_ok_iff {answer : Json} {m : Message String} :
    read answer = .ok m ↔ Gives answer m := by
  constructor
  · intro h
    obtain hread | ⟨choices, hchoices, htruthy, ⟨f, -, hread⟩ | ⟨choice, hfirst, hread⟩⟩ :=
      read_cases answer
    · cases hread.symm.trans h
    · cases hread.symm.trans h
    · obtain ⟨hcontent, hrole⟩ := messageOf_ok_iff.1 (hread.symm.trans h)
      cases hmessage : choice.member? "message" with
      | none =>
        rw [hmessage] at hcontent
        cases hcontent
      | some message =>
        rw [hmessage] at hcontent hrole
        obtain ⟨others, rfl⟩ := firstChoice_member htruthy hfirst hmessage
        exact ⟨choice, others, message, hchoices, hmessage, hcontent, hrole⟩
  · rintro ⟨choice, others, message, hchoices, hmessage, hcontent, hrole⟩
    have hread : read answer = messageOf message := by
      simp [read, hchoices, Json.isTruthy, firstChoice, hmessage]
    exact hread.trans (messageOf_ok_iff.2 ⟨hcontent, hrole⟩)

theorem read_error {answer : Json} {e : Failure ProviderError} (h : read answer = .error e) :
    (∃ text, e = unusable text) ∨
      ∃ choices f, answer.member? "choices" = some choices ∧ Headless choices f ∧ e = .fault f := by
  obtain hread | ⟨choices, hchoices, htruthy, ⟨f, hfirst, hread⟩ | ⟨choice, -, hread⟩⟩ :=
    read_cases answer
  · cases hread.symm.trans h
    exact .inl ⟨_, rfl⟩
  · cases hread.symm.trans h
    exact .inr ⟨choices, f, hchoices, (firstChoice_error_iff htruthy).1 hfirst, rfl⟩
  · exact .inl (messageOf_error (hread.symm.trans h))

theorem read_fault_iff {answer : Json} {f : Fault} :
    read answer = .error (.fault f) ↔
      ∃ choices, answer.member? "choices" = some choices ∧ Headless choices f := by
  constructor
  · intro h
    obtain ⟨text, htext⟩ | ⟨choices, g, hchoices, hheadless, hg⟩ := read_error h
    · cases htext
    · cases hg
      exact ⟨choices, hchoices, hheadless⟩
  · rintro ⟨choices, hchoices, hheadless⟩
    have htruthy := hheadless.isTruthy
    have hfirst := (firstChoice_error_iff htruthy).2 hheadless
    simp [read, hchoices, htruthy, hfirst]

theorem kind_of_read {answer : Json} {e : ProviderError} (h : read answer = .error (.known e)) :
    e.kind = .invalidResponse := by
  obtain ⟨text, htext⟩ | ⟨choices, f, -, -, hf⟩ := read_error h
  · cases htext
    rfl
  · cases hf

theorem kind_of_failure {t : Trouble} {e : ProviderError} (h : t.failure = .known e) :
    e.kind = .communication ∨ e.kind = .invalidResponse := by
  cases t <;> cases h <;> first | exact .inl rfl | exact .inr rfl

theorem failure_fault_iff {t : Trouble} {f : Fault} : t.failure = .fault f ↔ t = .fault f := by
  cases t <;> simp [Trouble.failure]

variable {σ : Type} {attempt : Act σ (Except Trouble Json)} {wait : Nat → Except Fault Number}
  {sleep : Number → Act σ Unit}

/-- The outcome of the last try. There is another one as long as the connection fails, tries are
left and there is a time to wait; where there is none, the outcome is the fault in its place. The
two numbers are those of the tries left and of the tries so far. -/
inductive LastTry (attempt : Act σ (Except Trouble Json)) (wait : Nat → Except Fault Number)
    (sleep : Number → Act σ Unit) : Nat → Nat → σ → Except Trouble Json → Prop
  | exhausted (tries : Nat) (w : σ) : LastTry attempt wait sleep 0 tries w (attempt.run w).result
  | settled (left tries : Nat) (w : σ)
      (h : ∀ message, (attempt.run w).result ≠ .error (.connection message)) :
      LastTry attempt wait sleep (left + 1) tries w (attempt.run w).result
  | again (left tries : Nat) (w : σ) (message : String) (time : Number)
      (outcome : Except Trouble Json)
      (h : (attempt.run w).result = .error (.connection message)) (hwait : wait tries = .ok time)
      (hlast : LastTry attempt wait sleep left (tries + 1)
        ((sleep time).run (attempt.run w).world).world outcome) :
      LastTry attempt wait sleep (left + 1) tries w outcome
  | timeless (left tries : Nat) (w : σ) (message : String) (f : Fault)
      (h : (attempt.run w).result = .error (.connection message))
      (hwait : wait tries = .error f) :
      LastTry attempt wait sleep (left + 1) tries w (.error (.fault f))

theorem tryFor_ends (left tries : Nat) (w : σ) :
    (tryFor attempt wait sleep left tries).Ends w fun outcome _ =>
      LastTry attempt wait sleep left tries w outcome := by
  -- on the tries that are left; only a failure to connect leads to another one
  induction left generalizing tries w with
  | zero => exact .exhausted tries w
  | succ left ih =>
    apply Act.Ends.bind (p := fun x v => x = (attempt.run w).result ∧ v = (attempt.run w).world)
      ⟨rfl, rfl⟩
    rintro x v ⟨hx, rfl⟩
    split
    · rename_i message
      split
      · rename_i f hwait
        exact .timeless left tries w message f hx.symm hwait
      · rename_i time hwait
        exact .again left tries w message time _ hx.symm hwait (ih _ _)
    · rename_i hother
      subst hx
      exact .settled left tries w hother

end Completion

namespace Llamafile

open Completion

variable {σ : Type}

def LastOutcome (l : Llamafile) (m : Machine σ) (config : ServerConfig) (q : Request) :
    σ → Except Trouble Json → Prop :=
  LastTry (m.complete config (payload q)) l.retries.wait m.sleep (l.retries.count - 1) 0

theorem complete_ends (l : Llamafile) (m : Machine σ) (config : ServerConfig) (q : Request)
    (w : σ) :
    (l.complete m config q).Ends w fun result _ =>
      ∃ outcome, l.LastOutcome m config q w outcome ∧
        result = match outcome with
          | .ok answer => read answer
          | .error trouble => .error trouble.failure := by
  apply Act.Ends.bind (tryFor_ends _ _ _)
  intro outcome v hlast
  cases outcome with
  | error trouble => exact ⟨_, hlast, rfl⟩
  | ok answer => exact ⟨_, hlast, rfl⟩

theorem chat_result {l : Llamafile} {m : Machine σ} {q : Request} {r : Running σ}
    {config : ServerConfig} (hconfig : r.status.config = some config)
    (hstage : r.status.stage = .serving) :
    ((l.chat m q).run r).result = ((l.complete m config q).run r.world).result := by
  obtain ⟨⟨stage, config', process⟩, w⟩ := r
  subst hconfig hstage
  rfl

/-- What a provider that serves makes of the last try. It replies with the message that an answer
gives, and has no other reply. It reports that the server was not reached, or that the answer cannot
be used; a fault passes through only from the try itself or from the want of a time to wait for
the next, or from choices of which none is the first. -/
theorem chat_of_serving (l : Llamafile) (m : Machine σ) (q : Request) (r : Running σ)
    (config : ServerConfig) (hconfig : r.status.config = some config)
    (hstage : r.status.stage = .serving) :
    ∃ outcome, l.LastOutcome m config q r.world outcome ∧
      (∀ message, ((l.chat m q).run r).result = .ok message ↔
        ∃ answer, outcome = .ok answer ∧ Gives answer message) ∧
      (∀ e, ((l.chat m q).run r).result = .error (.known e) →
        (e.kind = .communication ∨ e.kind = .invalidResponse) ∧
          ∀ answer, outcome = .ok answer → e.kind = .invalidResponse) ∧
      ∀ f, ((l.chat m q).run r).result = .error (.fault f) ↔
        outcome = .error (.fault f) ∨
          ∃ answer choices, outcome = .ok answer ∧ answer.member? "choices" = some choices ∧
            Headless choices f := by
  obtain ⟨outcome, hlast, hresult⟩ := complete_ends l m config q r.world
  rw [chat_result hconfig hstage, hresult]
  refine ⟨outcome, hlast, ?_⟩
  cases outcome with
  | ok answer =>
    simp only [read_ok_iff, read_fault_iff]
    exact ⟨by simp, fun e he => ⟨.inr (kind_of_read he), fun _ _ => kind_of_read he⟩, by simp⟩
  | error trouble =>
    refine ⟨by simp, fun e he => ⟨kind_of_failure (by simpa using he), by simp⟩, fun f => ?_⟩
    simp [failure_fault_iff]

/-- A provider that serves, on a machine where tries for a completion follow a script. -/
def serving (completions : List Scripted.CompletionScript) : Running Scripted.MachineWorld where
  status := { stage := .serving, config := some {} }
  world := { completions := completions }

/-- An answer with one choice, whose message names no role. -/
def answerOfNobody : Json :=
  .obj [("choices", .arr [.obj [("message", .obj [("content", .str "hello")])]])]

open Scripted.MachineWorld in
theorem chat_of_serving_retried :
    (serving [.fails (.connection "refused"), .answers answerOfNobody]).status.config = some {} ∧
      (serving [.fails (.connection "refused"), .answers answerOfNobody]).status.stage = .serving ∧
      ((ofUrl.chat scripted ⟨[⟨.user, "hi"⟩], none, none⟩).run
        (serving [.fails (.connection "refused"), .answers answerOfNobody])).result =
          .ok ⟨.assistant, "hello"⟩ := by
  refine ⟨rfl, rfl, ?_⟩
  obtain ⟨outcome, hlast, hok, -, -⟩ := chat_of_serving ofUrl scripted ⟨[⟨.user, "hi"⟩], none, none⟩
    (serving [.fails (.connection "refused"), .answers answerOfNobody]) {} rfl rfl
  have hnobody : (Json.obj [("content", .str "hello")]).member? "role" = none := rfl
  have hgives : Gives answerOfNobody ⟨.assistant, "hello"⟩ :=
    ⟨_, [], _, rfl, rfl, rfl, .inr ⟨rfl, fun v hv => by cases hnobody.symm.trans hv⟩⟩
  have htries : ofUrl.retries.count - 1 = 2 := rfl
  rw [LastOutcome, htries] at hlast
  apply (hok _).2
  cases hlast with
  | settled _ _ _ h => exact absurd rfl (h "refused")
  | timeless _ _ _ _ _ _ hwait => cases hwait
  | again _ _ _ _ _ _ _ _ hlast =>
    cases hlast with
    | settled => exact ⟨answerOfNobody, rfl, hgives⟩
    | again _ _ _ message _ _ h => cases h
    | timeless _ _ _ message _ h => cases h

def answering (answer : Json) : Machine Scripted.MachineWorld :=
  { Scripted.MachineWorld.scripted with complete := fun _ _ => pure (.ok answer) }

/-- Choices that are a number are not reported, though no try for a completion has a fault. -/
theorem fault_of_chat :
    ¬∀ (l : Llamafile) (m : Machine Scripted.MachineWorld) (q : Request)
      (r : Running Scripted.MachineWorld) (config : ServerConfig),
      r.status.config = some config → r.status.stage = .serving →
      (∀ w f, ((m.complete config (payload q)).run w).result ≠ .error (.fault f)) →
      ∀ f, ((l.chat m q).run r).result ≠ .error (.fault f) := by
  intro h
  have hanswers (w : Scripted.MachineWorld) (f : Fault) :
      (((answering (.obj [("choices", .ofInt 5)])).complete {} (payload ⟨[], none, none⟩)).run
        w).result ≠ .error (.fault f) := by
    intro hf
    cases hf
  exact h ofUrl _ ⟨[], none, none⟩ (serving []) {} rfl rfl hanswers
    (.mistyped "'int' object is not subscriptable") rfl

end Llamafile
end ChatHost
