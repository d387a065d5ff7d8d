import ChatHost.Proofs.Host.Telling
import ChatHost.Proofs.Host.Traffic
import ChatHost.Proofs.Host.Turns
import ChatHost.Scripted.Host

set_option autoImplicit false

/-!
Conversations in the traffic on a host. A history tells, from the calls alone and not from the
sessions, what they have said and when they have started a conversation over. However calls go on
together, each session is what the history of its handle makes of a new one, and it has its options,
its tools and its opening from one and the same call.
-/

namespace ChatHost

variable {σ : Type}

/-- Whether some tools are what a search through some endpoints has found, whatever the outside
world was like at each of them. -/
inductive Tool.Found (env : Surroundings σ) : List Text.Letters → Tools → Prop
  | start : Found env [] []
  | visit {endpoints : List Text.Letters} {tools : Tools} (endpoint : Text.Letters) (w : σ)
      (h : Found env endpoints tools) :
      Found env (endpoints ++ [endpoint]) ((Tool.visit env.transport tools endpoint).run w).result

/-- Whether the tools of a conversation that is started over are those of its options. -/
def Restart.Equipped (env : Surroundings σ) (r : Restart) : Prop :=
  if r.options.hasToolEndpoints then
    ∃ tools, r.tools = some tools ∧ Tool.Found env (Host.endpointsToVisit r.options) tools
  else r.tools = none

/-- Where a call that gives a session options has come to: it waits only between two endpoints that
its own options name. -/
def Call.Searches (env : Surroundings σ) (c : Call σ) : Prop :=
  match c.progress with
  | .ended _ => True
  | .waits (.visiting k options tools endpoint left) =>
    ∃ input visited, c.operation = .setOptions k input ∧ input.read = .ok options ∧
      options.toolEndpoints = some (visited ++ endpoint :: left) ∧ Tool.Found env visited tools
  | .waits _ => ∀ k input, c.operation ≠ .setOptions k input

/-- Whether what has happened in a step of a call is that it has started a conversation over just
when it has given a session options. -/
structure Call.Restarts (env : Surroundings σ) (c : Call σ) (number : Nat)
    (es : List Happening) : Prop where
  source : ∀ r, .restarted r ∈ es → r.call = number ∧ r.Equipped env ∧
    c.progress = .ended (.ok .done) ∧
    ∃ input, c.operation = .setOptions r.handle input ∧ input.read = .ok r.options
  told : ∀ k input, c.operation = .setOptions k input → c.progress = .ended (.ok .done) →
    ∃ r, .restarted r ∈ es ∧ r.handle = k

def Call.configures (k : Handle) : Call σ → Bool
  | ⟨.setOptions j _, .ended (.ok .done)⟩ => j = k
  | _ => false

theorem Call.configures_iff {k : Handle} {c : Call σ} :
    c.configures k = true ↔ ∃ input, c = ⟨.setOptions k input, .ended (.ok .done)⟩ := by
  constructor
  · intro hc
    unfold configures at hc
    split at hc
    · rename_i j input
      obtain rfl : j = k := by simpa using hc
      exact ⟨input, rfl⟩
    · cases hc
  · rintro ⟨input, rfl⟩
    simp [configures]

theorem Call.Restarts.of_none {env : Surroundings σ} {c : Call σ} {number : Nat}
    {es : List Happening} (hes : ∀ r, .restarted r ∉ es)
    (hc : (∀ k input, c.operation ≠ .setOptions k input) ∨ c.progress ≠ .ended (.ok .done)) :
    c.Restarts env number es where
  source r hr := absurd hr (hes r)
  told k input hop hp := by
    rcases hc with hc | hc
    · exact absurd hop (hc k input)
    · exact absurd hp hc

namespace Operation

variable {env : Surroundings σ}

theorem restarts_done {number : Nat} {r : Restart} {input : OptionsInput}
    (hcall : r.call = number) (htools : r.Equipped env) (hinput : input.read = .ok r.options)
    (result : Except (Failure HostError) Unit) :
    Call.Restarts env (σ := σ) ⟨.setOptions r.handle input, .done result⟩ number
      ((Progress.done result).tells (some (.restarted r))) := by
  cases result with
  | error e => exact .of_none (fun _ h => by cases h) (.inr nofun)
  | ok =>
    have htells : (Progress.done (.ok ())).tells (some (.restarted r)) = [.restarted r] := rfl
    rw [htells]
    refine ⟨fun r' hr' => ?_, fun k input' hop _ => ?_⟩
    · cases List.mem_singleton.1 hr'
      exact ⟨hcall, htools, rfl, input, rfl, hinput⟩
    · cases hop
      exact ⟨r, List.mem_singleton_self _, rfl⟩

theorem restarts_other {op : Operation σ} {q : Progress} {number : Nat} {e : Option Happening}
    (he : ∀ r, e ≠ some (.restarted r)) (hop : ∀ k input, op ≠ .setOptions k input) :
    Call.Restarts env ⟨op, q⟩ number (q.tells e) :=
  .of_none (fun r hr => he r (Progress.mem_tells hr).1) (.inl hop)

def Progress.visits : Progress → Bool
  | .waits (.visiting ..) => true
  | _ => false

theorem searches_of_visits {op : Operation σ} {q : Progress} (hq : q.visits = false)
    (hop : ∀ k input, op ≠ .setOptions k input) : Call.Searches env ⟨op, q⟩ := by
  unfold Call.Searches
  split
  · trivial
  · rename_i hwaits
    have hvisits : q = .waits _ := hwaits
    rw [hvisits] at hq
    cases hq
  · exact hop

theorem visits_continued {α : Type} {next : α → Pending}
    (hnext : ∀ x, (Progress.waits (next x)).visits = false)
    (result : Except (Failure HostError) α) : (Progress.continued result next).visits = false := by
  cases result with
  | error e => rfl
  | ok x => exact hnext x

theorem visits_goOn {α : Type} {r : Round} {next : α → Pending}
    (hnext : ∀ x, (Progress.waits (next x)).visits = false)
    (result : Except (Failure HostError) α) :
    (Progress.waits (goOn r result next)).visits = false := by
  cases result with
  | error e => rfl
  | ok x => exact hnext x

theorem ends_result {α β : Type} {a : Act σ α} {f : α → β} {post : β → Prop} {w : σ}
    (hf : ∀ x, post (f x)) : Act.Ends (a >>= fun x => pure (f x)) w fun y _ => post y :=
  hf _

theorem closeNext_visits (ks : List Handle) (h : Host σ) :
    (closeNext ks).Ends h fun q _ => q.visits = false := by
  induction ks generalizing h with
  | nil => exact rfl
  | cons k ks ih =>
    refine Act.Ends.bind (p := fun _ _ => True) trivial fun provider v _ => ?_
    cases provider with
    | none => exact ih v
    | some n => exact rfl

theorem start_visits (op : Operation σ) (hop : ∀ k input, op ≠ .setOptions k input)
    (h : Host σ) : (op.start env).Ends h fun q _ => q.visits = false := by
  cases op with
  | setModel model check => exact ends_result (visits_continued fun _ => rfl)
  | getModel k => exact rfl
  | setOptions k input => exact absurd rfl (hop k input)
  | getOptions k => exact rfl
  | prompt k text => exact rfl
  | readResponse k => exact ends_result (visits_continued fun _ => rfl)
  | close k =>
    refine Act.Ends.bind (p := fun _ _ => True) trivial fun provider v _ => ?_
    cases provider <;> exact rfl
  | closeAll =>
    exact Act.Ends.bind (p := fun _ _ => True) trivial fun ks v _ => closeNext_visits ks v

theorem resume_visits (p : Pending) (hp : (Progress.waits p).visits = false) (h : Host σ) :
    (resume env p).Ends h fun q _ => q.visits = false := by
  cases p with
  | starting s => exact rfl
  | visiting k options tools endpoint left => cases hp
  | hearing r =>
    refine ends_result (visits_goOn fun reply => ?_)
    split <;> rfl
  | scanning r reply =>
    refine ends_result (visits_goOn ?_)
    rintro (_ | request) <;> rfl
  | hearingAgain r request => exact rfl
  | releasing n result => exact rfl
  | closing k n => exact rfl
  | closingEach k n left =>
    refine Act.Ends.bind (p := fun _ _ => True) trivial fun result v _ => ?_
    refine Act.Ends.bind (p := fun _ _ => True) trivial fun tolerated u _ => ?_
    cases tolerated with
    | error f => exact rfl
    | ok => exact closeNext_visits left u

theorem happening_restarted {op : Operation σ} {w : σ} {number : Nat} {r : Restart}
    (hr : op.happening env w number = some (.restarted r)) :
    ∃ input, op = .setOptions r.handle input := by
  cases op with
  | setOptions k input =>
    simp only [happening] at hr
    split at hr
    · split at hr
      · cases hr
      · cases hr
        exact ⟨input, rfl⟩
    · cases hr
  | prompt k text =>
    simp only [happening] at hr
    split at hr <;> cases hr
  | _ => cases hr

theorem Pending.happening_restarted {p : Pending} {w : σ} {number : Nat} {r : Restart}
    (hr : p.happening env w number = some (.restarted r)) :
    (Progress.waits p).visits = true := by
  have hanswer (round : Round) (request : Request) :
      answer env w round request ≠ some (.restarted r) := by
    unfold answer
    split <;> exact nofun
  cases p with
  | visiting => rfl
  | hearing round => exact absurd hr (hanswer round _)
  | scanning round reply =>
    simp only [happening] at hr
    split at hr <;> cases hr
  | hearingAgain round request => exact absurd hr (hanswer round request)
  | _ => cases hr

theorem start_searches (op : Operation σ) (h : Host σ) (number : Nat) :
    (op.start env).Ends h fun q _ => Call.Searches env ⟨op, q⟩ ∧
      Call.Restarts env ⟨op, q⟩ number (q.tells (op.happening env h.world number)) := by
  by_cases hop : ∀ k input, op ≠ .setOptions k input
  · refine (start_visits op hop h).imp fun q _ hq => ⟨searches_of_visits hq hop, ?_⟩
    refine restarts_other (fun r hr => ?_) hop
    obtain ⟨input, hset⟩ := happening_restarted hr
    exact hop _ _ hset
  · obtain ⟨k, input, rfl⟩ : ∃ k input, op = .setOptions k input := by simpa using hop
    refine Act.Ends.bind (Host.beginConfigure_reads k input h) fun result v hv => ?_
    obtain ⟨rfl, hinput⟩ := hv
    cases result with
    | error e =>
      exact ⟨trivial, .of_none (fun _ hr => by cases hr) (.inr fun hdone => by cases hdone)⟩
    | ok options =>
      replace hinput := hinput options rfl
      simp only [happening, hinput]
      obtain ⟨message, endpoints, temperature, topP⟩ := options
      have hplain (hend : Options.hasToolEndpoints ⟨message, endpoints, temperature, topP⟩ = false)
          (result : Except (Failure HostError) Unit) (day : Date) :
          Call.Restarts env (σ := σ) ⟨.setOptions k input, .done result⟩ number
            ((Progress.done result).tells (Happening.restarted? k number
              ⟨message, endpoints, temperature, topP⟩ day none)) := by
        refine restarts_done (r := ⟨k, number, ⟨message, endpoints, temperature, topP⟩, day, none,
          Prompt.plain day message, rfl⟩) rfl ?_ hinput result
        unfold Restart.Equipped
        rw [hend]
        exact rfl
      cases endpoints with
      | none => exact ⟨trivial, hplain rfl _ _⟩
      | some endpoints =>
        cases endpoints with
        | nil => exact ⟨trivial, hplain rfl _ _⟩
        | cons endpoint left =>
          refine ⟨⟨input, [], rfl, hinput, rfl, .start⟩, ?_⟩
          exact .of_none (fun _ hr => by cases hr) (.inr fun hdone => by cases hdone)

theorem resume_searches (op : Operation σ) (p : Pending)
    (hc : Call.Searches env ⟨op, .waits p⟩) (h : Host σ) (number : Nat) :
    (resume env p).Ends h fun q _ => Call.Searches env ⟨op, q⟩ ∧
      Call.Restarts env ⟨op, q⟩ number (q.tells (p.happening env h.world number)) := by
  cases hp : (Progress.waits p).visits with
  | false =>
    have hop : ∀ k input, op ≠ .setOptions k input := by
      cases p with
      | visiting => cases hp
      | _ => exact hc
    refine (resume_visits p hp h).imp fun q _ hq => ⟨searches_of_visits hq hop, ?_⟩
    refine restarts_other (fun r hr => ?_) hop
    rw [Pending.happening_restarted hr] at hp
    cases hp
  | true =>
    cases p with
    | visiting k options tools endpoint left =>
      obtain ⟨input, visited, hop, hinput, hendpoints, hfound⟩ := hc
      obtain rfl : op = .setOptions k input := hop
      have hvisit := hfound.visit endpoint h.world
      refine Act.Ends.bind (a := Host.visitEndpoint env tools endpoint)
        (Host.within_ends (Tool.visit env.transport tools endpoint) h) fun found v hv => ?_
      obtain ⟨hresult, hworld, -⟩ := hv
      rw [← hresult] at hvisit
      cases left with
      | nil =>
        simp only [Pending.happening, ← hresult, ← hworld]
        have hend : (Host.endConfigure env k options found).Ends v _ :=
          Host.endConfigure_tells k number options found v
        refine Act.Ends.bind hend fun result u hu => ⟨trivial, ?_⟩
        obtain ⟨prompt, hbuilt, hrestart⟩ | ⟨-, hrestart⟩ := Happening.restarted?_cases k number
          options (env.today.run v.world).result (some found)
        case inr =>
          -- without a prompt the call has come to an error
          rw [hrestart] at hu ⊢
          obtain ⟨-, f, rfl⟩ := hu
          exact .of_none (fun _ hr => by cases hr) (.inr fun h => by cases h)
        rw [hrestart]
        refine restarts_done (r := ⟨k, number, options, _, some found, prompt, hbuilt⟩)
          rfl ?_ hinput
          result
        have hhas : options.hasToolEndpoints = true := by
          unfold Options.hasToolEndpoints
          rw [hendpoints]
          cases visited <;> rfl
        have hvisited : Host.endpointsToVisit options = visited ++ [endpoint] := by
          rw [Host.endpointsToVisit, hendpoints, Option.getD_some]
        unfold Restart.Equipped
        rw [if_pos hhas, hvisited]
        exact ⟨found, rfl, hvisit⟩
      | cons next left =>
        refine ⟨⟨input, visited ++ [endpoint], rfl, hinput, ?_, hvisit⟩, ?_⟩
        · rw [hendpoints, List.append_assoc, List.singleton_append]
        · exact .of_none (fun _ hr => by cases hr) (.inr fun hdone => by cases hdone)
    | _ => cases hp

theorem role_of_said {op : Operation σ} {w : σ} {number : Nat} {k : Handle} {m : Message}
    (hm : op.happening env w number = some (.said k m)) : m.role ≠ .system := by
  cases op with
  | prompt j text =>
    simp only [happening] at hm
    split at hm
    · cases hm
      exact fun hrole => by cases hrole
    · cases hm
  | setOptions j input =>
    simp only [happening] at hm
    split at hm
    · split at hm <;> cases hm
    · cases hm
  | _ => cases hm

theorem Pending.role_of_said {p : Pending} {w : σ} {number : Nat} {k : Handle} {m : Message}
    (hm : p.happening env w number = some (.said k m)) : m.role ≠ .system := by
  have hanswer (r : Round) (request : Request) (hr : answer env w r request = some (.said k m)) :
      m.role ≠ .system := by
    unfold answer at hr
    split at hr
    · cases hr
      exact fun hrole => by cases hrole
    · cases hr
  cases p with
  | visiting j options tools endpoint left =>
    cases left with
    | cons => cases hm
    | nil =>
      obtain ⟨prompt, built, hrestart⟩ := Happening.eq_of_restarted? hm
      cases hrestart
  | hearing r => exact hanswer r _ hm
  | scanning r reply =>
    simp only [happening] at hm
    split at hm
    · cases hm
      exact fun hrole => by cases hrole
    · cases hm
  | hearingAgain r request => exact hanswer r request hm
  | _ => cases hm

end Operation

namespace Happening

theorem retold_append (k : Handle) (past later : List Happening) (s : Session) :
    retold k (past ++ later) s = retold k later (retold k past s) :=
  List.foldl_append

theorem retold_of_ne {k : Handle} {past : List Happening} (h : ∀ e ∈ past, e.handle ≠ k)
    (s : Session) : retold k past s = s := by
  induction past generalizing s with
  | nil => rfl
  | cons e past ih =>
    have hhead : e.handle ≠ k := h e List.mem_cons_self
    have htail : ∀ e ∈ past, e.handle ≠ k := fun e he => h e (List.mem_cons_of_mem _ he)
    rw [retold, List.foldl_cons, if_neg hhead]
    exact ih htail s

/-- Unless the conversation is started over, what is said is added to it. -/
theorem retold_of_said {k : Handle} {past : List Happening}
    (h : ∀ r, .restarted r ∈ past → r.handle ≠ k) (s : Session) :
    retold k past s = { s with messages := s.messages ++ past.filterMap (said? k) } := by
  induction past generalizing s with
  | nil => simp [retold]
  | cons e past ih =>
    have htail : ∀ r, .restarted r ∈ past → r.handle ≠ k :=
      fun r hr => h r (List.mem_cons_of_mem _ hr)
    have hstep : retold k (e :: past) s =
        retold k past (if e.handle = k then e.told s else s) := rfl
    rw [hstep, ih htail, List.filterMap_cons]
    cases e with
    | said j m =>
      by_cases hj : j = k
      · simp [said?, handle, told, hj, Session.addMessage]
      · simp [said?, handle, hj]
    | restarted r =>
      have hr : r.handle ≠ k := h r List.mem_cons_self
      simp [said?, handle, hr]

theorem retold_restarted {k : Handle} {r : Restart} (hk : r.handle = k) (later : List Happening)
    (s : Session) :
    retold k (.restarted r :: later) s =
      retold k later (s.reset r.options r.opening.content r.tools) := by
  have hhead : (Happening.restarted r).handle = k := hk
  rw [retold, List.foldl_cons, if_pos hhead]
  rfl

theorem told_identity (e : Happening) (s : Session) :
    (e.told s).modelName = s.modelName ∧ (e.told s).provider = s.provider := by
  cases e <;> exact ⟨rfl, rfl⟩

theorem exists_last_restart {k : Handle} {past : List Happening} {r : Restart}
    (hr : .restarted r ∈ past) (hk : r.handle = k) :
    ∃ earlier r later, past = earlier ++ .restarted r :: later ∧ r.handle = k ∧
      ∀ r', .restarted r' ∈ later → r'.handle ≠ k := by
  induction past generalizing r with
  | nil => cases hr
  | cons e past ih =>
    by_cases hagain : ∃ r', .restarted r' ∈ past ∧ r'.handle = k
    · obtain ⟨r', hr', hk'⟩ := hagain
      obtain ⟨earlier, last, later, rfl, hlast, hlater⟩ := ih hr' hk'
      exact ⟨e :: earlier, last, later, rfl, hlast, hlater⟩
    · rcases List.mem_cons.1 hr with rfl | hr
      · exact ⟨[], r, past, rfl, hk, fun r' hr' hk' => hagain ⟨r', hr', hk'⟩⟩
      · exact absurd ⟨r, hr, hk⟩ hagain

end Happening

namespace Traffic

/-- A fresh host, on which there are no calls yet. -/
def fresh (w : σ) : Traffic σ where
  host := { world := w }

def happenings (env : Surroundings σ) (t : Traffic σ) : Move σ → List Happening
  | .ask operation =>
    ((operation.start env).run t.host).result.tells
      (operation.happening env t.host.world t.calls.length)
  | .resume number =>
    match t.calls[number]? with
    | some ⟨_, .waits p⟩ =>
      ((Operation.resume env p).run t.host).result.tells (p.happening env t.host.world number)
    | some ⟨_, .ended _⟩ | none => []
  | .outside _ => []

/-- What some moves say and start over, in their order. -/
def history (env : Surroundings σ) : Traffic σ → List (Move σ) → List Happening
  | _, [] => []
  | t, m :: moves => t.happenings env m ++ history env (t.step env m) moves

/-- Whether some call has given the session under a handle its options. -/
def Configured (t : Traffic σ) (k : Handle) : Prop :=
  ∃ c ∈ t.calls, c.configures k = true

/-- Whether a conversation was started over by a call that gave a session options, with these
options and the tools that they lead to. -/
def Applied (env : Surroundings σ) (t : Traffic σ) (r : Restart) : Prop :=
  r.Equipped env ∧ ∃ input, input.read = .ok r.options ∧
    t.calls[r.call]? = some ⟨.setOptions r.handle input, .ended (.ok .done)⟩

/-- The invariant of the traffic on a host and its history. -/
structure Recorded (env : Surroundings σ) (t : Traffic σ) (past : List Happening) : Prop where
  session : ∀ k s, t.host.registry.get? k = some s →
    s = Happening.retold k past { modelName := s.modelName, provider := s.provider }
  /-- Of a handle that has not been given out nothing is known. -/
  ahead : ∀ k : Int, t.host.registry.next ≤ k →
    t.host.registry.get? k = none ∧ ∀ e ∈ past, e.handle ≠ k
  searches : ∀ (i : Nat) (c : Call σ), t.calls[i]? = some c → c.Searches env
  applied : ∀ r, .restarted r ∈ past → t.Applied env r
  told : ∀ k, t.Configured k → ∃ r, .restarted r ∈ past ∧ r.handle = k
  role : ∀ k m, .said k m ∈ past → m.role ≠ .system

variable {env : Surroundings σ} {t t' : Traffic σ} {past es : List Happening}

theorem recorded_fresh (w : σ) : Recorded env (fresh w) [] where
  session k s hs := by cases hs
  ahead k _ := ⟨rfl, List.forall_mem_nil _⟩
  searches i c hc := by cases hc
  applied r hr := by cases hr
  told k hk := by
    obtain ⟨c, hc, -⟩ := hk
    cases hc
  role k m hm := by cases hm

/-- What a step does to the sessions is written down in the history. -/
theorem Recorded.retelling (h : Recorded env t past)
    (hr : Retelling t.host.registry t'.host.registry es) :
    (∀ k s, t'.host.registry.get? k = some s →
      s = Happening.retold k (past ++ es) { modelName := s.modelName, provider := s.provider }) ∧
    ∀ k : Int, t'.host.registry.next ≤ k →
      t'.host.registry.get? k = none ∧ ∀ e ∈ past ++ es, e.handle ≠ k := by
  generalize t'.host.registry = r' at hr ⊢
  cases hr with
  | kept r' hnext hcells =>
    rw [List.append_nil]
    refine ⟨fun k s hs => ?_, fun k hk => ?_⟩
    · rcases hcells k with hk | hk
      · exact h.session k s (hk.symm.trans hs)
      · rw [hk] at hs
        cases hs
    · rw [hnext] at hk
      obtain ⟨hnone, hpast⟩ := h.ahead k hk
      refine ⟨?_, hpast⟩
      rcases hcells k with hk | hk
      · exact hk.trans hnone
      · exact hk
  | told e s hs =>
    refine ⟨fun k s' hs' => ?_, fun k hk => ?_⟩
    · rw [Registry.get?_store] at hs'
      rw [Happening.retold_append]
      by_cases hk : k = e.handle
      · rw [if_pos hk] at hs'
        cases hs'
        obtain ⟨hname, hprovider⟩ := e.told_identity s
        rw [hname, hprovider, hk, ← h.session e.handle s hs]
        simp [Happening.retold]
      · rw [if_neg hk] at hs'
        rw [← h.session k s' hs']
        exact (Happening.retold_of_ne (by simpa using Ne.symm hk) s').symm
    · obtain ⟨hnone, hpast⟩ := h.ahead k hk
      have hne : k ≠ e.handle := by
        rintro rfl
        rw [hnone] at hs
        cases hs
      refine ⟨by rw [Registry.get?_store, if_neg hne, hnone], fun e' he' => ?_⟩
      rcases List.mem_append.1 he' with he' | he'
      · exact hpast e' he'
      · rw [List.mem_singleton.1 he']
        exact hne.symm
  | opened name provider =>
    rw [List.append_nil, Registry.next_insert]
    refine ⟨fun k s hs => ?_, fun k hk => ?_⟩
    · rw [Registry.get?_insert] at hs
      split_ifs at hs with hnew
      · cases hs
        exact (Happening.retold_of_ne (h.ahead k (Int.le_of_eq hnew.2.symm)).2 _).symm
      · exact h.session k s hs
    · have hnext : (t.host.registry.next : Int) + 1 ≤ k := by simpa using hk
      have hle : (t.host.registry.next : Int) ≤ k := by omega
      have hne : k ≠ (t.host.registry.next : Int) := by omega
      obtain ⟨hnone, hpast⟩ := h.ahead k hle
      refine ⟨?_, hpast⟩
      rw [Registry.get?_insert, if_neg fun hnew => hne hnew.2]
      exact hnone

/-- A call that takes a step, while all other calls stay where they are. -/
theorem Recorded.advance {number : Nat} {c : Call σ} (h : Recorded env t past)
    (hc : t'.calls[number]? = some c)
    (hothers : ∀ i, i ≠ number → t'.calls[i]? = t.calls[i]?)
    (hbefore : ∀ op result, t.calls[number]? ≠ some ⟨op, .ended result⟩)
    (hr : Retelling t.host.registry t'.host.registry es)
    (hsearches : c.Searches env) (hrestarts : c.Restarts env number es)
    (hrole : ∀ k m, .said k m ∈ es → m.role ≠ .system) : Recorded env t' (past ++ es) where
  session := (h.retelling hr).1
  ahead := (h.retelling hr).2
  searches i c' hc' := by
    by_cases hi : i = number
    · rw [hi, hc] at hc'
      cases hc'
      exact hsearches
    · rw [hothers i hi] at hc'
      exact h.searches i c' hc'
  applied r hr := by
    rcases List.mem_append.1 hr with hr | hr
    · obtain ⟨hequipped, input, hinput, hcall⟩ := h.applied r hr
      -- the call of an earlier restart has ended, and an ended call takes no step
      have hne : r.call ≠ number := fun hi => hbefore _ _ (hi ▸ hcall)
      exact ⟨hequipped, input, hinput, (hothers r.call hne).trans hcall⟩
    · obtain ⟨hnumber, hequipped, hended, input, hop, hinput⟩ := hrestarts.source r hr
      refine ⟨hequipped, input, hinput, ?_⟩
      rw [hnumber, hc, ← hop, ← hended]
  told k hk := by
    obtain ⟨c', hc', hconfigures⟩ := hk
    obtain ⟨i, hi⟩ := List.mem_iff_getElem?.1 hc'
    by_cases hnumber : i = number
    · rw [hnumber, hc] at hi
      cases hi
      obtain ⟨input, rfl⟩ := Call.configures_iff.1 hconfigures
      obtain ⟨r, hr, hk⟩ := hrestarts.told k input rfl rfl
      exact ⟨r, List.mem_append_right _ hr, hk⟩
    · rw [hothers i hnumber] at hi
      obtain ⟨r, hr, hk⟩ := h.told k ⟨c', List.mem_of_getElem? hi, hconfigures⟩
      exact ⟨r, List.mem_append_left _ hr, hk⟩
  role k m hm := by
    rcases List.mem_append.1 hm with hm | hm
    · exact h.role k m hm
    · exact hrole k m hm

theorem Recorded.step (h : Recorded env t past) (m : Move σ) :
    Recorded env (t.step env m) (past ++ t.happenings env m) := by
  cases m with
  | ask op =>
    have hcall : (t.step env (.ask op)).calls[t.calls.length]? =
        some ⟨op, ((op.start env).run t.host).result⟩ := List.getElem?_concat_length
    have hothers (i : Nat) (hi : i ≠ t.calls.length) :
        (t.step env (.ask op)).calls[i]? = t.calls[i]? := by
      have hcalls : (t.step env (.ask op)).calls =
          t.calls ++ [⟨op, ((op.start env).run t.host).result⟩] := rfl
      rw [hcalls, List.getElem?_append]
      split_ifs with hlt
      · rfl
      · rw [List.getElem?_eq_none (by simp; omega), List.getElem?_eq_none (by omega)]
    have hnew (op' : Operation σ) (result : Except (Failure HostError) Operation.Answer) :
        t.calls[t.calls.length]? ≠ some ⟨op', .ended result⟩ := by
      rw [List.getElem?_eq_none (Nat.le_refl _)]
      exact nofun
    obtain ⟨hsearches, hrestarts⟩ :=
      Operation.start_searches op t.host t.calls.length
    refine h.advance hcall hothers hnew (op.start_retelling env t.calls.length t.host) hsearches
      hrestarts fun k m hm => ?_
    exact Operation.role_of_said (Operation.Progress.mem_tells hm).1
  | resume number =>
    have hstay (hstep : t.step env (.resume number) = t)
        (hnone : t.happenings env (.resume number) = []) :
        Recorded env (t.step env (.resume number))
          (past ++ t.happenings env (.resume number)) := by
      rw [hstep, hnone, List.append_nil]
      exact h
    cases hc : t.calls[number]? with
    | none => exact hstay (step_resume_none hc) (by simp [happenings, hc])
    | some c =>
      obtain ⟨op, result | p⟩ := c
      · exact hstay (step_resume_ended hc) (by simp [happenings, hc])
      · have hlt : number < t.calls.length := (List.getElem?_eq_some_iff.1 hc).1
        have htells : t.happenings env (.resume number) =
            ((Operation.resume env p).run t.host).result.tells
              (p.happening env t.host.world number) := by
          simp only [happenings, hc]
        obtain ⟨hsearches, hrestarts⟩ :=
          Operation.resume_searches op p (h.searches number _ hc) t.host number
        rw [step_resume_waits hc, htells]
        refine h.advance (List.getElem?_set_self hlt)
          (fun i hi => List.getElem?_set_ne hi.symm) ?_
          (Operation.resume_retelling env p number t.host) hsearches hrestarts fun k m hm => ?_
        · intro op' result hended
          rw [hc] at hended
          cases hended
        · exact Operation.Pending.role_of_said (Operation.Progress.mem_tells hm).1
  | outside change =>
    have hnone : t.happenings env (.outside change) = [] := rfl
    rw [hnone, List.append_nil]
    exact ⟨h.session, h.ahead, h.searches, h.applied, h.told, h.role⟩

theorem Recorded.run (h : Recorded env t past) (moves : List (Move σ)) :
    Recorded env (t.run env moves) (past ++ t.history env moves) := by
  induction moves generalizing t past with
  | nil => simpa [history, Traffic.run] using h
  | cons m moves ih =>
    have hrest := ih (h.step m)
    rw [List.append_assoc] at hrest
    exact hrest

/-- In every state that the traffic on a host comes to, a session that has been given options has
them, its tools and its opening from one and the same call that gave it options, and what follows in
its conversation is what has been said since that call applied them; before, its conversation is all
that has been said. The system says nothing but the opening. -/
theorem conversation_of_session (env : Surroundings σ) (w : σ) (moves : List (Move σ))
    {k : Handle} {s : Session}
    (hs : ((fresh w).run env moves).host.registry.get? k = some s) :
    let t := (fresh w).run env moves
    let past := (fresh w).history env moves
    (t.Configured k → ∃ earlier r later, past = earlier ++ .restarted r :: later ∧
        r.handle = k ∧ (∀ r', .restarted r' ∈ later → r'.handle ≠ k) ∧ t.Applied env r ∧
        s.options = r.options ∧ s.tools = r.tools ∧
        s.messages = r.opening :: later.filterMap (Happening.said? k)) ∧
      (¬t.Configured k → s.messages = past.filterMap (Happening.said? k)) ∧
      ∀ j m, .said j m ∈ past → m.role ≠ .system := by
  intro t past
  have h : Recorded env t past := (recorded_fresh w).run moves
  have hsession := h.session k s hs
  refine ⟨fun hconfigured => ?_, fun hconfigured => ?_, h.role⟩
  · obtain ⟨r, hr, hk⟩ := h.told k hconfigured
    -- the history is cut at the last time the session got options: all before it is lost
    obtain ⟨earlier, r, later, hpast, hk, hlater⟩ := Happening.exists_last_restart hr hk
    have happlied : t.Applied env r := h.applied r (hpast ▸ by simp)
    rw [hpast, Happening.retold_append, Happening.retold_restarted hk,
      Happening.retold_of_said hlater] at hsession
    refine ⟨earlier, r, later, hpast, hk, hlater, happlied, ?_, ?_, ?_⟩ <;> rw [hsession]
    · rfl
    · rfl
    · rfl
  · -- options are applied in the step in which the call for them ends, so none have been
    have hnever (r : Restart) (hr : .restarted r ∈ past) : r.handle ≠ k := by
      intro hk
      obtain ⟨-, input, -, hcall⟩ := h.applied r hr
      rw [hk] at hcall
      exact hconfigured ⟨_, List.mem_of_getElem? hcall, Call.configures_iff.2 ⟨input, rfl⟩⟩
    rw [Happening.retold_of_said hnever] at hsession
    rw [hsession]
    exact List.nil_append _

/-- The moves in which a session is given options twice at the same time, while a round goes on. -/
def overlapping : List (Move Scripted.HostWorld) :=
  [.ask (.setModel (.text "gemma-2-2b-it") none), .resume 0, .ask (.readResponse 1),
    .ask (.setOptions 1 (.given { toolEndpoints := some ["http://tools.test/sse"] })),
    .ask (.setOptions 1 (.given {})), .ask (.prompt 1 (.text "Hello")), .resume 2, .resume 1]

theorem conversation_of_overlapping :
    let env := Scripted.HostWorld.surroundings .standard {} ⟨2025, 1, 31⟩
    ∃ s, ((fresh {}).run env overlapping).host.registry.get? 1 = some s ∧
      s.messages.map Message.role = [.system, .assistant] ∧
      ∃ (r : Restart) (later : List Happening), s.options = r.options ∧ s.tools = r.tools ∧
        s.messages = r.opening :: later.filterMap (Happening.said? 1) := by
  intro env
  have hroles : (((fresh {}).run env overlapping).host.registry.get? 1).map
      (fun s => s.messages.map Message.role) = some [.system, .assistant] := by
    decide +kernel
  obtain ⟨s, hs, hmessages⟩ := Option.map_eq_some_iff.1 hroles
  have hconfigured : ((fresh {}).run env overlapping).Configured 1 := by
    unfold Configured
    decide +kernel
  obtain ⟨-, r, later, -, -, -, -, hoptions, htools, hlog⟩ :=
    (conversation_of_session env {} overlapping hs).1 hconfigured
  exact ⟨s, hs, hmessages, r, later, hoptions, htools, hlog⟩

end Traffic

end ChatHost
