import ChatHost.Proofs.Noted
import ChatHost.Provider.Llamafile
import ChatHost.Scripted.Machine

set_option autoImplicit false

/-!
The processes of a provider that runs a llamafile. The provider remembers one process. It gives it
up when it shuts down, before the process is asked to end, and when it starts another one; a process
that does not end then, or has not been asked to, is forgotten.
-/

namespace ChatHost

inductive Process.Event where
  | spawned (p : Process)
  | terminated (p : Process)
  | killed (p : Process)
  /-- It has been waited for, and has ended. -/
  | waited (p : Process)
  /-- Something that was to end it has failed. -/
  | failed (p : Process)
  deriving DecidableEq

namespace Process.Event

def ofSpawn : Except OsError Process → List Event
  | .ok p => [.spawned p]
  | .error _ => []

def ofEnding {α : Type} (p : Process) (done : α → List Event) : Except OsError α → List Event
  | .ok a => done a
  | .error _ => [.failed p]

/-- The note on a process that was waited for, perhaps not long enough. -/
def ofWait (p : Process) (time : Option Number) (ended : Bool) : List Event :=
  if ended || time.isNone then [.waited p] else []

end Process.Event

variable {ε σ α : Type}

/-- Runs a step in the world behind the notes, and takes those that its result calls for. -/
def Noted.afterwards (f : α → List ε) (a : Act σ α) : Act (Noted ε σ) α := do
  let x ← Noted.silent a
  Act.modify fun n => { n with notes := n.notes ++ f x }
  return x

def Machine.noted (m : Machine σ) : Machine (Noted Process.Event σ) where
  present p := Noted.silent (m.present p)
  fetch url p := Noted.silent (m.fetch url p)
  spawn command := Noted.afterwards Process.Event.ofSpawn (m.spawn command)
  terminate p :=
    Noted.afterwards (Process.Event.ofEnding p fun _ => [.terminated p]) (m.terminate p)
  wait p time :=
    Noted.afterwards (Process.Event.ofEnding p (Process.Event.ofWait p time)) (m.wait p time)
  kill p := Noted.afterwards (Process.Event.ofEnding p fun _ => [.killed p]) (m.kill p)
  sleep time := Noted.silent (m.sleep time)
  complete config value := Noted.silent (m.complete config value)

namespace Llamafile

inductive Call where
  | start (config : ServerConfig)
  | chat (request : Request)
  | shutdown
  | release

def Call.after (l : Llamafile) (m : Machine σ) (r : Running σ) : Call → Running σ
  | .start config => ((l.start m config).run r).world
  | .chat request => ((l.chat m request).run r).world
  | .shutdown => ((l.shutdown m).run r).world
  | .release => ((l.release m).run r).world

/-- What some calls lead to on a new provider, with notes of what becomes of its processes. -/
def observed (l : Llamafile) (m : Machine σ) (w : σ) (calls : List Call) :
    Running (Noted Process.Event σ) :=
  calls.foldl (Call.after l m.noted) { world := ⟨w, []⟩ }

variable {l : Llamafile} {m : Machine σ}

/-- The process that a provider remembers, and the notes on all of them. -/
def custody (r : Running (Noted Process.Event σ)) : Option Process × List Process.Event :=
  (r.status.process, r.world.notes)

theorem preserves_within_silent (a : Act σ α) :
    (within (Noted.silent a)).Preserves (custody (σ := σ)) :=
  fun _ => rfl

theorem preserves_enter (s : Stage) : (enter s).Preserves (custody (σ := σ)) :=
  fun _ => rfl

theorem preserves_obtain : (l.obtain m.noted).Preserves custody := by
  refine (preserves_within_silent _).bind ?_
  rintro (e | _ | _)
  · exact Act.preserves_pure _
  · exact (preserves_enter _).bind fun _ => (Act.preserves_log _ _ _).bind fun _ =>
      preserves_within_silent _
  · exact Act.preserves_pure _

theorem preserves_serve (config : ServerConfig) : (l.serve m.noted config).Preserves custody := by
  unfold serve
  split
  · exact (preserves_within_silent _).bind fun _ => (preserves_enter _).bind fun _ _ => rfl
  · exact (preserves_enter _).bind fun _ _ => rfl

theorem spawn_custody (config : ServerConfig) (r : Running (Noted Process.Event σ)) :
    (l.spawn m.noted config).Ends r fun result r' =>
      match result with
      | .error _ => custody r' = custody r
      | .ok () => ∃ q, custody r' = (some q, r.world.notes ++ [.spawned q]) := by
  have hspawn : (within (m.noted.spawn (l.command config))).Ends r fun result r' =>
      custody r' = (r.status.process, r.world.notes ++ Process.Event.ofSpawn result) := rfl
  refine Act.Ends.bind (p := fun _ v => v = r) rfl ?_
  rintro _ _ rfl
  refine Act.Ends.bind hspawn ?_
  rintro (e | q) v hv
  · exact hv.trans (congrArg (Prod.mk _) (List.append_nil _))
  · exact ⟨q, congrArg (fun c => (some q, c.2)) hv⟩

/-- A start puts a new process in place of the one that is remembered, or leaves all as it is. -/
theorem start_custody (config : ServerConfig) (r : Running (Noted Process.Event σ)) :
    (l.start m.noted config).Ends r fun _ r' =>
      custody r' = custody r ∨ ∃ q, custody r' = (some q, r.world.notes ++ [.spawned q]) := by
  refine Act.Ends.bind (p := fun _ v => custody v = custody r) rfl fun _ v hv => ?_
  have hspawned : ((l.obtain m.noted).andThen fun () => l.spawn m.noted config).Ends v
      fun result r' =>
        match result with
        | .error _ => custody r' = custody r
        | .ok () => ∃ q, custody r' = (some q, r.world.notes ++ [.spawned q]) := by
    refine Act.Ends.andThen (preserves_obtain.ends v) (fun _ u hu => ?_) fun _ u hu => hu.trans hv
    have hu := hu.trans hv
    refine (spawn_custody config u).imp ?_
    rintro (e | ⟨⟩) t ht
    · exact ht.trans hu
    · obtain ⟨q, hq⟩ := ht
      exact ⟨q, hq.trans (congrArg (fun c => (some q, c.2 ++ [.spawned q])) hu)⟩
  refine Act.Ends.bind hspawned ?_
  rintro ((e | e) | ⟨⟩) u hu
  · dsimp only
    split
    · exact .inl hu
    · exact .inl hu
  · exact .inl hu
  · obtain ⟨q, hq⟩ := hu
    exact .inr ⟨q, (preserves_serve config u).trans hq⟩

theorem preserves_tryFor {γ : Type} {f : σ → γ} {attempt : Act σ (Except Completion.Trouble Json)}
    {wait : Nat → Except Fault Number} {sleep : Number → Act σ Unit} (ha : attempt.Preserves f)
    (hs : ∀ time, (sleep time).Preserves f) (left tries : Nat) :
    (Completion.tryFor attempt wait sleep left tries).Preserves f := by
  induction left generalizing tries with
  | zero => exact ha
  | succ left ih =>
    refine ha.bind fun x => ?_
    split
    · split
      · exact Act.preserves_pure _
      · exact (hs _).bind fun _ => ih _
    · exact Act.preserves_pure _

theorem preserves_complete (config : ServerConfig) (q : Request) :
    (l.complete m.noted config q).Preserves Noted.notes := by
  refine Act.Preserves.bind (preserves_tryFor (fun _ => rfl) (fun _ _ => rfl) _ _) fun x => ?_
  cases x <;> exact Act.preserves_pure _

theorem preserves_chat (q : Request) : (l.chat m.noted q).Preserves custody := by
  refine Act.Preserves.bind (fun _ => rfl) fun status => ?_
  split
  · exact (Act.preserves_write _).bind fun _ r =>
      congrArg (Prod.mk _) (preserves_complete _ q r.world)
  · exact Act.preserves_pure _

/-- What notes tell of an attempt to end a process: whether it was asked to end and waited for, or
something failed. No process is started meanwhile. -/
def Account {ε : Type} (p : Process) (result : Except ε Unit) (es : List Process.Event) : Prop :=
  (∀ q, .spawned q ∉ es) ∧
    match result with
    | .ok () => .terminated p ∈ es ∧ .waited p ∈ es
    | .error _ => .failed p ∈ es

theorem terminate_notes (p : Process) (n : Noted Process.Event σ) :
    (m.noted.terminate p).Ends n fun result n' =>
      n'.notes = n.notes ++ Process.Event.ofEnding p (fun _ => [.terminated p]) result :=
  rfl

theorem await_notes (p : Process) (n : Noted Process.Event σ) :
    (l.await m.noted p).Ends n fun result n' =>
      ∃ es, n'.notes = n.notes ++ es ∧ (∀ q, .spawned q ∉ es) ∧
        match result with
        | .ok () => .waited p ∈ es
        | .error _ => .failed p ∈ es := by
  have hwait (time : Option Number) (v : Noted Process.Event σ) :
      (m.noted.wait p time).Ends v fun result v' =>
        v'.notes = v.notes ++ Process.Event.ofEnding p (Process.Event.ofWait p time) result := rfl
  have hkill (v : Noted Process.Event σ) : (m.noted.kill p).Ends v fun result v' =>
      v'.notes = v.notes ++ Process.Event.ofEnding p (fun _ => [.killed p]) result := rfl
  refine Act.Ends.andThen (hwait _ n) (fun ended v hv => ?_) fun e v hv =>
    ⟨_, hv, by simp [Process.Event.ofEnding]⟩
  cases ended with
  | true =>
    exact (Act.ends_pure _ _ _).2
      ⟨_, hv, by simp [Process.Event.ofEnding, Process.Event.ofWait]⟩
  | false =>
    replace hv : v.notes = n.notes := by
      simpa [Process.Event.ofEnding, Process.Event.ofWait] using hv
    refine Act.Ends.bind (p := fun _ u => u.notes = n.notes) ((Act.ends_log _ _ _ _ _).2 hv)
      fun _ u hu => ?_
    refine Act.Ends.andThen (hkill u) (fun _ t ht => ?_) fun e t ht =>
      ⟨_, ht.trans (congrArg (· ++ _) hu), by simp [Process.Event.ofEnding]⟩
    refine Act.Ends.andThen (hwait none t) (fun b x hx => ?_) fun e x hx => ?_
    · rw [ht, hu, List.append_assoc] at hx
      exact (Act.ends_pure _ _ _).2
        ⟨_, hx, by simp [Process.Event.ofEnding, Process.Event.ofWait]⟩
    · rw [ht, hu, List.append_assoc] at hx
      exact ⟨_, hx, by simp [Process.Event.ofEnding]⟩

/-- Once a process is to be stopped, the notes account for it. -/
theorem stop_custody (p : Process) (r : Running (Noted Process.Event σ)) :
    (l.stop m.noted p).Ends r fun result r' =>
      ∃ es, custody r' = (r.status.process, r.world.notes ++ es) ∧ Account p result es := by
  have hended (n : Noted Process.Event σ) :
      ((m.noted.terminate p).andThen fun () => l.await m.noted p).Ends n fun result n' =>
        ∃ es, n'.notes = n.notes ++ es ∧ Account p result es := by
    refine Act.Ends.andThen (terminate_notes p n) (fun _ v hv => ?_) fun e v hv =>
      ⟨_, hv, by simp [Account, Process.Event.ofEnding]⟩
    refine (await_notes p v).imp ?_
    rintro result u ⟨es, hu, hspawned, hresult⟩
    rw [hv, List.append_assoc] at hu
    refine ⟨_, hu, by simpa [Process.Event.ofEnding] using hspawned, ?_⟩
    cases result with
    | ok => exact ⟨List.mem_cons_self, List.mem_cons_of_mem _ hresult⟩
    | error => exact List.mem_cons_of_mem _ hresult
  refine Act.Ends.bind (p := fun _ v => custody v = custody r) rfl fun _ v hv => ?_
  refine Act.Ends.bind (p := fun _ u => custody u = custody r) hv fun _ u hu => ?_
  have hwithin : (within ((m.noted.terminate p).andThen fun () => l.await m.noted p)).Ends u
      fun result r' => ∃ es, custody r' = (r.status.process, r.world.notes ++ es) ∧
        Account p result es := by
    obtain ⟨es, hes, haccount⟩ := hended u.world
    have hprocess : u.status.process = r.status.process := congrArg Prod.fst hu
    have hnotes : u.world.notes = r.world.notes := congrArg Prod.snd hu
    exact ⟨es, Prod.ext hprocess (hes.trans (congrArg (· ++ es) hnotes)), haccount⟩
  refine Act.Ends.bind hwithin ?_
  rintro (e | ⟨⟩) t ht
  · exact ht
  · exact ht

/-- A shutdown gives up the process that is remembered, whatever becomes of it. -/
theorem shutdown_custody (r : Running (Noted Process.Event σ)) :
    (l.shutdown m.noted).Ends r fun result r' =>
      match r.status.process with
      | none => custody r' = custody r
      | some p => ∃ es, custody r' = (none, r.world.notes ++ es) ∧ Account p result es := by
  refine Act.Ends.bind (p := fun process v => process = r.status.process ∧ v = r) ⟨rfl, rfl⟩ ?_
  rintro process v ⟨rfl, rfl⟩
  refine Act.Ends.bind (p := fun _ u => custody u = (none, v.world.notes)) rfl fun _ u hu => ?_
  cases hp : v.status.process with
  | none =>
    have hcustody : custody v = (none, v.world.notes) := congrArg (·, _) hp
    refine Act.Ends.bind (p := fun _ t => custody t = custody v) (hu.trans hcustody.symm)
      fun stage t ht => ?_
    dsimp only
    split
    · exact ht
    · exact ht
  | some p =>
    refine (stop_custody p u).imp ?_
    rintro result t ⟨es, ht, haccount⟩
    have hprocess : u.status.process = none := congrArg Prod.fst hu
    have hnotes : u.world.notes = v.world.notes := congrArg Prod.snd hu
    exact ⟨es, ht.trans (Prod.ext hprocess (congrArg (· ++ es) hnotes)), haccount⟩

theorem release_world (r : Running (Noted Process.Event σ)) :
    ((l.release m.noted).run r).world = r ∨
      ((l.release m.noted).run r).world = ((l.shutdown m.noted).run r).world := by
  cases hp : r.status.process with
  | none =>
    refine .inl ?_
    show (l.release m.noted).Ends r fun _ v => v = r
    refine Act.Ends.bind (p := fun process v => process = none ∧ v = r) ⟨hp, rfl⟩ ?_
    rintro _ _ ⟨rfl, rfl⟩
    rfl
  | some p =>
    refine .inr ?_
    show (l.release m.noted).Ends r fun _ v => v = ((l.shutdown m.noted).run r).world
    refine Act.Ends.bind (p := fun process v => process = some p ∧ v = r) ⟨hp, rfl⟩ ?_
    rintro _ v ⟨rfl, hv⟩
    refine Act.Ends.bind (p := fun _ u => u = ((l.shutdown m.noted).run r).world)
      (congrArg (fun r => ((l.shutdown m.noted).run r).world) hv) ?_
    rintro ((f | e) | ⟨⟩) u hu <;> exact hu

/-- Whether notes tell that a process was asked to end and waited for, or that this failed. -/
def Settled (p : Process) (es : List Process.Event) : Prop :=
  (.terminated p ∈ es ∧ .waited p ∈ es) ∨ .failed p ∈ es

theorem Account.settled {ε : Type} {p : Process} {result : Except ε Unit}
    {es : List Process.Event} (h : Account p result es) : Settled p es := by
  cases result with
  | ok => exact .inl h.2
  | error => exact .inr h.2

theorem Settled.append {p : Process} {es : List Process.Event} (h : Settled p es)
    (es' : List Process.Event) : Settled p (es ++ es') :=
  h.imp (And.imp (List.mem_append_left _) (List.mem_append_left _)) (List.mem_append_left _)

/-- A call leaves all as it is, puts a new process in place of the one that is remembered, or gives
this one up with an account of it. -/
theorem after_custody (c : Call) (r : Running (Noted Process.Event σ)) :
    custody (c.after l m.noted r) = custody r ∨
    (∃ q, custody (c.after l m.noted r) = (some q, r.world.notes ++ [.spawned q])) ∨
    ∃ p es, r.status.process = some p ∧
      custody (c.after l m.noted r) = (none, r.world.notes ++ es) ∧
      (∀ q, .spawned q ∉ es) ∧ Settled p es := by
  have hshutdown : custody ((l.shutdown m.noted).run r).world = custody r ∨
      ∃ p es, r.status.process = some p ∧
        custody ((l.shutdown m.noted).run r).world = (none, r.world.notes ++ es) ∧
        (∀ q, .spawned q ∉ es) ∧ Settled p es := by
    have h := shutdown_custody (l := l) (m := m) r
    revert h
    cases hp : r.status.process with
    | none => exact .inl
    | some p =>
      rintro ⟨es, hes, haccount⟩
      exact .inr ⟨p, es, rfl, hes, haccount.1, haccount.settled⟩
  cases c with
  | start config => exact (start_custody config r).imp_right .inl
  | chat q => exact .inl (preserves_chat q r)
  | shutdown => exact hshutdown.imp_right .inr
  | release =>
    rcases release_world (l := l) (m := m) r with h | h
    · exact .inl (congrArg custody h)
    · have hworld : Call.after l m.noted r .release = ((l.shutdown m.noted).run r).world := h
      rw [hworld]
      exact hshutdown.imp_right .inr

/-- What holds at any time of the process that is remembered and of the notes. -/
structure Custodial (c : Option Process × List Process.Event) : Prop where
  /-- The process that is remembered is the last that was started, and nothing was done since. -/
  held : ∀ p, c.1 = some p → ∃ before, c.2 = before ++ [.spawned p]
  /-- A process is remembered, or settled, or was given up for another one. -/
  fate : ∀ before p after, c.2 = before ++ .spawned p :: after →
    (after = [] ∧ c.1 = some p) ∨ Settled p after ∨ ∃ q rest, after = .spawned q :: rest

/-- No later note is taken for a start, unless it tells of one. -/
theorem exists_after_of_append {before after es notes : List Process.Event} {p : Process}
    (hes : ∀ q, .spawned q ∉ es) (h : notes ++ es = before ++ .spawned p :: after) :
    ∃ rest, notes = before ++ .spawned p :: rest ∧ after = rest ++ es := by
  rcases List.append_eq_append_iff.1 h with ⟨rest, -, h⟩ | ⟨rest, hnotes, h⟩
  · exact absurd (h ▸ List.mem_append_right _ List.mem_cons_self) (hes p)
  · cases rest with
    | nil =>
      rw [List.nil_append] at h
      exact absurd (h ▸ List.mem_cons_self) (hes p)
    | cons e rest =>
      obtain ⟨rfl, rfl⟩ := List.cons.inj h
      exact ⟨rest, hnotes, rfl⟩

theorem Custodial.spawned {c : Option Process × List Process.Event} (h : Custodial c)
    (q : Process) : Custodial (some q, c.2 ++ [.spawned q]) := by
  refine ⟨fun p hp => ⟨c.2, Option.some.inj hp ▸ rfl⟩, fun before p after hnotes => ?_⟩
  -- the new start is the last note: a start that has notes after it is an older one
  rcases List.eq_nil_or_concat after with rfl | ⟨rest, e, rfl⟩
  · obtain ⟨-, he⟩ := List.append_inj' hnotes rfl
    cases he
    exact .inl ⟨rfl, rfl⟩
  · have hsplit : c.2 ++ [.spawned q] = (before ++ .spawned p :: rest) ++ [e] :=
      hnotes.trans (by simp)
    obtain ⟨hc, he⟩ := List.append_inj' hsplit rfl
    cases he
    rcases h.fate before p rest hc with ⟨rfl, -⟩ | hsettled | ⟨q', rest', rfl⟩
    · exact .inr (.inr ⟨q, [], rfl⟩)
    · exact .inr (.inl (by simpa using hsettled.append _))
    · exact .inr (.inr ⟨q', rest' ++ [.spawned q], by simp⟩)

theorem Custodial.settled {c : Option Process × List Process.Event} (h : Custodial c)
    {p : Process} {es : List Process.Event} (hp : c.1 = some p) (hes : ∀ q, .spawned q ∉ es)
    (hsettled : Settled p es) : Custodial (none, c.2 ++ es) := by
  refine ⟨nofun, fun before q after hnotes => ?_⟩
  obtain ⟨rest, hc, rfl⟩ := exists_after_of_append hes hnotes
  rcases h.fate before q rest hc with ⟨rfl, hq⟩ | hrest | ⟨q', rest', rfl⟩
  · -- the last start is that of the process given up, of which the new notes are the account
    cases hp.symm.trans hq
    exact .inr (.inl hsettled)
  · exact .inr (.inl (hrest.append es))
  · exact .inr (.inr ⟨q', rest' ++ es, rfl⟩)

theorem custodial_after {r : Running (Noted Process.Event σ)} (h : Custodial (custody r))
    (c : Call) : Custodial (custody (c.after l m.noted r)) := by
  rcases after_custody (l := l) (m := m) c r with
    hsame | ⟨q, hq⟩ | ⟨p, es, hp, hes, hspawned, hsettled⟩
  · exact hsame ▸ h
  · exact hq ▸ h.spawned q
  · exact hes ▸ h.settled hp hspawned hsettled

theorem custodial_observed (w : σ) (calls : List Call) :
    Custodial (custody (observed l m w calls)) := by
  have hstart : Custodial (custody { world := (⟨w, []⟩ : Noted Process.Event σ) }) :=
    ⟨nofun, fun before _ _ h => absurd h.symm (List.append_ne_nil_of_right_ne_nil before nofun)⟩
  exact List.foldlRecOn calls (motive := fun r => Custodial (custody r)) _ hstart
    fun _ h c _ => custodial_after h c

/-- A shutdown that succeeds has ended the process that the provider remembered. Of all that were
started, every other one was ended before it, or failed to be ended, or was forgotten when another
one was started in its place. -/
theorem fate_of_shutdown (l : Llamafile) (m : Machine σ) (w : σ) (calls : List Call)
    (hok : ((l.shutdown m.noted).run (observed l m w calls)).result = .ok ()) :
    (observed l m w (calls ++ [.shutdown])).status.process = none ∧
    (∀ p, (observed l m w calls).status.process = some p →
      ∃ es, (observed l m w (calls ++ [.shutdown])).world.notes =
          (observed l m w calls).world.notes ++ es ∧ .terminated p ∈ es ∧ .waited p ∈ es) ∧
    ∀ before p after, (observed l m w (calls ++ [.shutdown])).world.notes =
        before ++ .spawned p :: after →
      (.terminated p ∈ after ∧ .waited p ∈ after) ∨ .failed p ∈ after ∨
        ∃ q rest, after = .spawned q :: rest := by
  have hlast : observed l m w (calls ++ [.shutdown]) =
      ((l.shutdown m.noted).run (observed l m w calls)).world :=
    List.foldl_append ..
  have hcustodial := custodial_observed (l := l) (m := m) w (calls ++ [.shutdown])
  have h := shutdown_custody (l := l) (m := m) (observed l m w calls)
  unfold Act.Ends at h
  rw [← hlast, hok] at h
  have hnone : (observed l m w (calls ++ [.shutdown])).status.process = none := by
    cases hp : (observed l m w calls).status.process with
    | none => rw [hp] at h; exact (congrArg Prod.fst h).trans hp
    | some p => rw [hp] at h; obtain ⟨es, hes, -⟩ := h; exact congrArg Prod.fst hes
  refine ⟨hnone, fun p hp => ?_, fun before p after hnotes => ?_⟩
  · rw [hp] at h
    obtain ⟨es, hes, -, haccount⟩ := h
    exact ⟨es, congrArg Prod.snd hes, haccount⟩
  · rcases hcustodial.fate before p after hnotes with ⟨-, hp⟩ | hsettled | hreplaced
    · cases hnone.symm.trans hp
    · exact hsettled.imp_right .inl
    · exact .inr (.inr hreplaced)

def ofUrl : Llamafile where
  model := .url "https://models.test/tiny.llamafile" "tiny.llamafile"
  path := ⟨.relative, ["tiny.llamafile"]⟩

open Scripted.MachineWorld in
theorem fate_of_shutdown_served :
    ((ofUrl.shutdown scripted.noted).run (observed ofUrl scripted {} [.start {}])).result = .ok () ∧
      (observed ofUrl scripted {} [.start {}]).status.process = some ⟨0, pid⟩ ∧
      ∃ es, (observed ofUrl scripted {} ([.start {}] ++ [.shutdown])).world.notes =
          (observed ofUrl scripted {} [.start {}]).world.notes ++ es ∧
        .terminated ⟨0, pid⟩ ∈ es ∧ .waited ⟨0, pid⟩ ∈ es := by
  have hok : ((ofUrl.shutdown scripted.noted).run
      (observed ofUrl scripted {} [.start {}])).result = .ok () := by rfl
  have hprocess : (observed ofUrl scripted {} [.start {}]).status.process = some ⟨0, pid⟩ := by
    decide +kernel
  exact ⟨hok, hprocess, (fate_of_shutdown ofUrl scripted {} [.start {}] hok).2.1 _ hprocess⟩

open Scripted.MachineWorld in
/-- After two starts a shutdown succeeds, though nothing has ended the first process. -/
theorem not_ended_of_shutdown :
    ¬∀ (l : Llamafile) (m : Machine Scripted.MachineWorld) (w : Scripted.MachineWorld)
      (calls : List Call),
      ((l.shutdown m.noted).run (observed l m w calls)).result = .ok () →
      ∀ before p after, (observed l m w (calls ++ [.shutdown])).world.notes =
          before ++ .spawned p :: after →
        (.terminated p ∈ after ∨ .killed p ∈ after) ∧ .waited p ∈ after := by
  intro h
  have hok : ((ofUrl.shutdown scripted.noted).run
      (observed ofUrl scripted {} [.start {}, .start {}])).result = .ok () := by rfl
  have hnotes : (observed ofUrl scripted {} ([.start {}, .start {}] ++ [.shutdown])).world.notes =
      [] ++ .spawned ⟨0, pid⟩ ::
        [.spawned ⟨1, pid⟩, .terminated ⟨1, pid⟩, .waited ⟨1, pid⟩] := by
    decide +kernel
  have hended := h ofUrl scripted {} [.start {}, .start {}] hok _ _ _ hnotes
  revert hended
  decide

end Llamafile
end ChatHost
