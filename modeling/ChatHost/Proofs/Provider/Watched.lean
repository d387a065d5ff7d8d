import ChatHost.Proofs.Agree
import ChatHost.Proofs.Provider.Processes

set_option autoImplicit false

/-!
What a provider that runs a llamafile asks of its machine. On machines that answer alike, whatever
their worlds, providers go the same way; so to take notes of all that is asked changes nothing.
-/

namespace ChatHost

variable {σ τ α β : Type}

/-- Whether two machines answer alike in worlds that are related. -/
structure Machine.Agree (r : σ → τ → Prop) (m : Machine σ) (n : Machine τ) : Prop where
  present (p : Path) : Act.Agree r Eq (m.present p) (n.present p)
  fetch (url : String) (p : Path) : Act.Agree r Eq (m.fetch url p) (n.fetch url p)
  spawn (command : List String) : Act.Agree r Eq (m.spawn command) (n.spawn command)
  terminate (p : Process) : Act.Agree r Eq (m.terminate p) (n.terminate p)
  wait (p : Process) (time : Option Number) : Act.Agree r Eq (m.wait p time) (n.wait p time)
  kill (p : Process) : Act.Agree r Eq (m.kill p) (n.kill p)
  sleep (time : Number) : Act.Agree r Eq (m.sleep time) (n.sleep time)
  complete (config : ServerConfig) (value : Json Text.Letters) :
    Act.Agree r Eq (m.complete config value) (n.complete config value)

/-- The same result and related worlds lead to the same way on. -/
theorem Act.Agree.bindEq {r : σ → τ → Prop} {q : β → β → Prop} {a : Act σ α} {b : Act τ α}
    {f : α → Act σ β} {g : α → Act τ β} (h : Act.Agree r Eq a b)
    (hfg : ∀ x, Act.Agree r q (f x) (g x)) : Act.Agree r q (a >>= f) (b >>= g) :=
  h.bind fun x _ hxy => hxy ▸ hfg x

theorem Act.Agree.andThenEq {r : σ → τ → Prop} {ε : Type} {a : Act σ (Except ε α)}
    {b : Act τ (Except ε α)} {f : α → Act σ (Except ε β)} {g : α → Act τ (Except ε β)}
    (h : Act.Agree r Eq a b) (hfg : ∀ x, Act.Agree r Eq (f x) (g x)) :
    Act.Agree r Eq (a.andThen f) (b.andThen g) := by
  apply h.bindEq
  intro x
  cases x with
  | ok x => exact hfg x
  | error e => exact Act.agree_pure rfl

namespace Llamafile

/-- Providers that remember the same, in worlds that are related. -/
def Beside (r : σ → τ → Prop) (a : Running σ) (b : Running τ) : Prop :=
  a.status = b.status ∧ r a.world b.world

variable {r : σ → τ → Prop}

theorem agree_within {a : Act σ α} {b : Act τ α} (h : Act.Agree r Eq a b) :
    Act.Agree (Beside r) Eq (within a) (within b) :=
  fun _ _ hw => ⟨(h _ _ hw.2).1, hw.1, (h _ _ hw.2).2⟩

theorem agree_note (f : Status → Status) : Act.Agree (Beside r) Eq (note f) (note f) :=
  fun _ _ hw => ⟨rfl, congrArg f hw.1, hw.2⟩

theorem agree_status (f : Status → α) :
    Act.Agree (Beside r) Eq (Act.read fun v : Running σ => f v.status)
      (Act.read fun v : Running τ => f v.status) :=
  fun _ _ hw => ⟨congrArg f hw.1, hw⟩

theorem agree_records {ρ : σ → τ → Prop} (records : List LogRecord) :
    Act.Agree ρ Eq (Act.write records) (Act.write records) :=
  fun _ _ hw => ⟨rfl, hw⟩

variable {m : Machine σ} {n : Machine τ} (l : Llamafile) (h : m.Agree r n)
include h

theorem agree_start (config : ServerConfig) :
    Act.Agree (Beside r) Eq (l.start m config) (l.start n config) := by
  have hobtain : Act.Agree (Beside r) Eq (l.obtain m) (l.obtain n) := by
    apply (agree_within (h.present _)).bindEq
    intro found
    cases found with
    | error e => exact Act.agree_pure rfl
    | ok there =>
      cases there with
      | true => exact Act.agree_pure rfl
      | false =>
        exact (agree_note _).bindEq fun _ => (agree_records _).bindEq fun _ =>
          agree_within (h.fetch _ _)
  have hspawn : Act.Agree (Beside r) Eq (l.spawn m config) (l.spawn n config) := by
    apply (agree_records _).bindEq
    intro _
    apply (agree_within (h.spawn _)).bindEq
    intro spawned
    cases spawned with
    | error e => exact Act.agree_pure rfl
    | ok p => exact (agree_note _).bindEq fun _ => Act.agree_pure rfl
  have hserve : Act.Agree (Beside r) Eq (l.serve m config) (l.serve n config) := by
    unfold serve
    have hon : Act.Agree (Beside r) Eq
        (do
          enter .serving
          let pid := pidWord (← Act.read fun r : Running σ => r.status.process)
          Act.log .info logger
            s!"Llamafile server for {l.model.label} listening on {config.baseUrl} (pid {pid})")
        (do
          enter .serving
          let pid := pidWord (← Act.read fun r : Running τ => r.status.process)
          Act.log .info logger
            s!"Llamafile server for {l.model.label} listening on {config.baseUrl} (pid {pid})") :=
      (agree_note _).bindEq fun _ => (agree_status _).bindEq fun _ => agree_records _
    split
    · exact (agree_within (h.sleep _)).bindEq fun _ => hon
    · exact hon
  apply (agree_note _).bindEq
  intro _
  apply (hobtain.andThenEq fun _ => hspawn).bindEq
  intro spawned
  cases spawned with
  | ok => exact hserve.bindEq fun _ => Act.agree_pure rfl
  | error f =>
    cases f with
    | fault f => exact Act.agree_pure rfl
    | known e =>
      dsimp only
      split
      · exact (agree_note _).bindEq fun _ => Act.agree_pure rfl
      · exact Act.agree_pure rfl

theorem agree_await (p : Process) : Act.Agree r Eq (l.await m p) (l.await n p) := by
  apply (h.wait _ _).andThenEq
  intro ended
  cases ended with
  | true => exact Act.agree_pure rfl
  | false =>
    exact (agree_records _).bindEq fun _ => (h.kill _).andThenEq fun _ =>
      (h.wait _ _).andThenEq fun _ => Act.agree_pure rfl

theorem agree_shutdown : Act.Agree (Beside r) Eq (l.shutdown m) (l.shutdown n) := by
  apply (agree_status _).bindEq
  intro process
  apply (agree_note _).bindEq
  intro _
  cases process with
  | none =>
    apply (agree_status _).bindEq
    intro stage
    dsimp only
    split
    · exact (agree_note _).bindEq fun _ => Act.agree_pure rfl
    · exact Act.agree_pure rfl
  | some p =>
    apply (agree_note _).bindEq
    intro _
    apply (agree_records _).bindEq
    intro _
    apply (agree_within ((h.terminate p).andThenEq fun _ => agree_await l h p)).bindEq
    intro ended
    cases ended <;> exact (agree_note _).bindEq fun _ => Act.agree_pure rfl

theorem agree_release : Act.Agree (Beside r) Eq (l.release m) (l.release n) := by
  apply (agree_status _).bindEq
  intro process
  cases process with
  | none => exact Act.agree_pure rfl
  | some p =>
    apply (agree_shutdown l h).bindEq
    intro result
    cases result with
    | ok => exact Act.agree_pure rfl
    | error f =>
      cases f with
      | fault f => exact Act.agree_pure rfl
      | known e => exact (agree_records _).bindEq fun _ => Act.agree_pure rfl

theorem agree_chat (q : Request) : Act.Agree (Beside r) Eq (l.chat m q) (l.chat n q) := by
  have htry (config : ServerConfig) (left tries : Nat) : Act.Agree r Eq
      (Completion.tryFor (m.complete config (Completion.payload q)) l.retries.wait m.sleep left
        tries)
      (Completion.tryFor (n.complete config (Completion.payload q)) l.retries.wait n.sleep left
        tries) := by
    induction left generalizing tries with
    | zero => exact h.complete _ _
    | succ left ih =>
      apply (h.complete _ _).bindEq
      intro outcome
      split
      · split
        · exact Act.agree_pure rfl
        · exact (h.sleep _).bindEq fun _ => ih _
      · exact Act.agree_pure rfl
  apply (agree_status id).bindEq
  intro status
  split
  · apply (agree_records _).bindEq
    intro _
    apply agree_within
    apply (htry _ _ _).bindEq
    intro outcome
    cases outcome <;> exact Act.agree_pure rfl
  · exact Act.agree_pure rfl

/-- Providers on machines that answer alike remember the same after a call. -/
theorem beside_after {a : Running σ} {b : Running τ} (hab : Beside r a b) (c : Call) :
    Beside r (c.after l m a) (c.after l n b) := by
  cases c with
  | start config => exact (agree_start l h config _ _ hab).2
  | chat q => exact (agree_chat l h q _ _ hab).2
  | shutdown => exact (agree_shutdown l h _ _ hab).2
  | release => exact (agree_release l h _ _ hab).2

theorem beside_foldl {a : Running σ} {b : Running τ} (hab : Beside r a b) (calls : List Call) :
    Beside r (calls.foldl (Call.after l m) a) (calls.foldl (Call.after l n) b) := by
  induction calls generalizing a b with
  | nil => exact hab
  | cons c calls ih => exact ih (beside_after l h hab c)

end Llamafile

inductive Machine.Event where
  | present (p : Path)
  | fetch (url : String) (p : Path)
  | spawn (command : List String)
  | terminate (p : Process)
  | wait (p : Process) (time : Option Number)
  | kill (p : Process)
  | sleep (time : Number)
  | complete (config : ServerConfig) (value : Json Text.Letters)

def Machine.watched (m : Machine σ) : Machine (Noted Machine.Event σ) where
  present p := Noted.noting (.present p) (m.present p)
  fetch url p := Noted.noting (.fetch url p) (m.fetch url p)
  spawn command := Noted.noting (.spawn command) (m.spawn command)
  terminate p := Noted.noting (.terminate p) (m.terminate p)
  wait p time := Noted.noting (.wait p time) (m.wait p time)
  kill p := Noted.noting (.kill p) (m.kill p)
  sleep time := Noted.noting (.sleep time) (m.sleep time)
  complete config value := Noted.noting (.complete config value) (m.complete config value)

def Noted.Behind {ε : Type} (n : Noted ε σ) (w : σ) : Prop :=
  n.world = w

theorem Noted.agree_noting {ε : Type} (e : ε) (a : Act σ α) :
    Act.Agree Noted.Behind Eq (noting e a) a :=
  fun _ _ h => h ▸ ⟨rfl, rfl⟩

theorem Machine.agree_watched (m : Machine σ) : m.watched.Agree Noted.Behind m where
  present _ := Noted.agree_noting _ _
  fetch _ _ := Noted.agree_noting _ _
  spawn _ := Noted.agree_noting _ _
  terminate _ := Noted.agree_noting _ _
  wait _ _ := Noted.agree_noting _ _
  kill _ := Noted.agree_noting _ _
  sleep _ := Noted.agree_noting _ _
  complete _ _ := Noted.agree_noting _ _

namespace Llamafile

def reached (l : Llamafile) (m : Machine σ) (w : σ) (calls : List Call) : Running σ :=
  calls.foldl (Call.after l m) { world := w }

def asked (l : Llamafile) (m : Machine σ) (w : σ) (calls : List Call) : List Machine.Event :=
  (reached l m.watched ⟨w, []⟩ calls).world.notes

theorem reached_append (l : Llamafile) (m : Machine σ) (w : σ) (calls later : List Call) :
    reached l m w (calls ++ later) = later.foldl (Call.after l m) (reached l m w calls) :=
  List.foldl_append

/-- To take notes of what is asked changes nothing. -/
theorem reached_watched (l : Llamafile) (m : Machine σ) (w : σ) (calls : List Call) :
    Beside Noted.Behind (reached l m.watched ⟨w, []⟩ calls) (reached l m w calls) := by
  have hnew : Beside Noted.Behind ({ world := ⟨w, []⟩ } : Running (Noted Machine.Event σ))
      ({ world := w } : Running σ) := ⟨rfl, rfl⟩
  exact beside_foldl l m.agree_watched hnew calls

end Llamafile
end ChatHost
