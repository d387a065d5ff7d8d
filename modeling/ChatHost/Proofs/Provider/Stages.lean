import ChatHost.Proofs.Provider.Tries

set_option autoImplicit false

/-!
The stages of a provider that runs a llamafile. Where it serves, it has a process and a config; a
shutdown takes the process and ends the serving, and from then on nothing happens until the next
start.
-/

namespace ChatHost.Llamafile

variable {σ : Type}

/-- A provider that serves has a process and a config. -/
structure Founded (s : Status) : Prop where
  process : s.stage = .serving → s.process.isSome
  config : s.stage = .serving → s.config.isSome

variable {l : Llamafile} {m : Machine σ}

theorem obtain_status (r : Running σ) :
    (l.obtain m).Ends r fun _ r' =>
      r'.status = r.status ∨ r'.status = { r.status with stage := .downloading } := by
  have hpresent : (within (m.present l.path)).Ends r fun _ v => v.status = r.status := rfl
  apply Act.Ends.bind hpresent
  intro found v hv
  cases found with
  | error e => exact .inl hv
  | ok there =>
    cases there with
    | true => exact .inl hv
    | false => exact .inr (congrArg (fun s : Status => { s with stage := .downloading }) hv)

theorem spawn_status (config : ServerConfig) (r : Running σ) :
    (l.spawn m config).Ends r fun result r' =>
      match result with
      | .ok () => ∃ p, r'.status = { r.status with process := some p }
      | .error _ => r'.status = r.status := by
  refine Act.Ends.bind (p := fun _ v => v = r) rfl ?_
  intro _ v hv
  subst hv
  have hspawn : (within (m.spawn (l.command config))).Ends v fun _ u => u.status = v.status := rfl
  apply Act.Ends.bind hspawn
  intro spawned u hu
  cases spawned with
  | error e => exact hu
  | ok p => exact ⟨p, congrArg (fun s : Status => { s with process := some p }) hu⟩

theorem serve_status (config : ServerConfig) (r : Running σ) :
    (l.serve m config).Ends r fun _ r' => r'.status = { r.status with stage := .serving } := by
  unfold serve
  split <;> rfl

/-- A start that succeeds serves. One that fails keeps the process of before, does not begin to
serve, and leaves the provider failed when this is reported as a failure to start. -/
theorem start_status (config : ServerConfig) (r : Running σ) :
    (l.start m config).Ends r fun result r' =>
      match result with
      | .ok () => ∃ p, r'.status = ⟨.serving, some config, some p⟩
      | .error f =>
        r'.status.process = r.status.process ∧ r'.status.config = some config ∧
          (r'.status.stage = .serving → r.status.stage = .serving) ∧
          ∀ e, f = .known e → e.kind.isInitialization → r'.status.stage = .failed := by
  have hbegun : (note fun status : Status => { status with config := some config }).Ends r
      fun _ v => v.status = { r.status with config := some config } := rfl
  refine hbegun.bind ?_
  intro _ v hv
  have hspawned : ((l.obtain m).andThen fun () => l.spawn m config).Ends v fun result u =>
      u.status.config = some config ∧
        match result with
        | .ok () => ∃ p, u.status.process = some p
        | .error _ => u.status.process = r.status.process ∧
            (u.status.stage = .serving → r.status.stage = .serving) := by
    have hobtain := obtain_status (l := l) (m := m) v
    rw [hv] at hobtain
    apply hobtain.andThen
    · intro _ u hu
      apply (spawn_status config u).imp
      intro result t ht
      cases result with
      | ok =>
        obtain ⟨p, hp⟩ := ht
        rcases hu with hu | hu <;> simp [hp, hu]
      | error => rcases hu with hu | hu <;> simp [ht, hu]
    · intro e u hu
      rcases hu with hu | hu <;> simp [hu]
  apply Act.Ends.bind hspawned
  intro result u hu
  obtain ⟨hconfig, hresult⟩ := hu
  cases result with
  | ok =>
    obtain ⟨p, hp⟩ := hresult
    apply Act.Ends.bind (serve_status config u)
    intro _ t ht
    refine ⟨p, ?_⟩
    show t.status = _
    simp [ht, hconfig, hp]
  | error f =>
    obtain ⟨hprocess, hstage⟩ := hresult
    cases f with
    | fault f => exact ⟨hprocess, hconfig, hstage, nofun⟩
    | known e =>
      dsimp only
      split
      · exact ⟨hprocess, hconfig, nofun, fun _ _ _ => rfl⟩
      · rename_i hkind
        refine ⟨hprocess, hconfig, hstage, fun e' he hkind' => ?_⟩
        cases he
        exact absurd hkind' hkind

theorem chat_status (q : Request) (r : Running σ) :
    ((l.chat m q).run r).world.status = r.status := by
  show (l.chat m q).Ends r fun _ r' => r'.status = r.status
  refine Act.Ends.bind (p := fun _ v => v = r) rfl ?_
  intro status v hv
  subst hv
  split <;> rfl

/-- A shutdown leaves no process and does not leave the provider serving, whatever it comes to. -/
theorem shutdown_status (r : Running σ) :
    (l.shutdown m).Ends r fun _ r' =>
      r'.status.process = none ∧ r'.status.stage ≠ .serving := by
  refine Act.Ends.bind (p := fun process v => v = r) rfl ?_
  intro process v hv
  refine Act.Ends.bind (p := fun _ (u : Running σ) => u.status.process = none) rfl ?_
  intro _ u hu
  cases process with
  | none =>
    refine Act.Ends.bind (p := fun stage t => stage = u.status.stage ∧ t = u) ⟨rfl, rfl⟩ ?_
    intro stage t ht
    obtain ⟨rfl, rfl⟩ := ht
    dsimp only
    split
    · exact ⟨hu, nofun⟩
    · rename_i hstage
      exact ⟨hu, hstage⟩
  | some p =>
    refine Act.Ends.bind (p := fun _ (t : Running σ) => t.status.process = none) hu ?_
    intro _ t ht
    refine Act.Ends.bind (p := fun _ (s : Running σ) => s.status.process = none) ht ?_
    intro _ s hs
    refine Act.Ends.bind (p := fun _ (x : Running σ) => x.status.process = none) hs ?_
    intro ended x hx
    cases ended with
    | ok => exact ⟨hx, nofun⟩
    | error e => exact ⟨hx, nofun⟩

/-- A provider that has no process and does not serve. -/
def Idle (r : Running σ) : Prop :=
  r.status.process = none ∧ r.status.stage ≠ .serving

theorem chat_of_idle (q : Request) {r : Running σ} (h : r.status.stage ≠ .serving) :
    ((l.chat m q).run r).world = r := by
  show (l.chat m q).Ends r fun _ r' => r' = r
  refine Act.Ends.bind (p := fun status v => status = r.status ∧ v = r) ⟨rfl, rfl⟩ ?_
  intro status v hv
  obtain ⟨rfl, rfl⟩ := hv
  split
  · contradiction
  · rfl

theorem shutdown_of_idle {r : Running σ} (h : Idle r) : ((l.shutdown m).run r).world = r := by
  obtain ⟨⟨stage, config, process⟩, w⟩ := r
  obtain ⟨hprocess, hstage⟩ := h
  dsimp only at hprocess hstage
  subst hprocess
  cases stage <;> first | contradiction | rfl

theorem release_of_idle {r : Running σ} (h : Idle r) : ((l.release m).run r).world = r := by
  obtain ⟨⟨stage, config, process⟩, w⟩ := r
  obtain ⟨hprocess, -⟩ := h
  dsimp only at hprocess
  subst hprocess
  rfl

theorem after_of_idle {r : Running σ} (h : Idle r) {c : Call} (hc : ∀ config, c ≠ .start config) :
    c.after l m r = r := by
  cases c with
  | start config => exact absurd rfl (hc config)
  | chat q => exact chat_of_idle q h.2
  | shutdown => exact shutdown_of_idle h
  | release => exact release_of_idle h

/-- Calls other than a start leave an idle provider and the world as they are. -/
theorem foldl_after_of_idle {r : Running σ} (h : Idle r) {calls : List Call}
    (hcalls : ∀ config, .start config ∉ calls) : calls.foldl (Call.after l m) r = r := by
  induction calls with
  | nil => rfl
  | cons c calls ih =>
    have hc (config : ServerConfig) : c ≠ .start config := fun hc =>
      hcalls config (hc ▸ List.mem_cons_self)
    rw [List.foldl_cons, after_of_idle h hc]
    exact ih fun config hmem => hcalls config (List.mem_cons_of_mem _ hmem)

theorem founded_of_shutdown (r : Running σ) :
    Founded ((l.shutdown m).run r).world.status :=
  have hstage := (shutdown_status (l := l) (m := m) r).2
  ⟨fun h => absurd h hstage, fun h => absurd h hstage⟩

theorem founded_of_release {r : Running σ} (h : Founded r.status) :
    Founded ((l.release m).run r).world.status := by
  show (l.release m).Ends r fun _ r' => Founded r'.status
  refine Act.Ends.bind (p := fun _ v => v = r) rfl ?_
  intro process v hv
  subst hv
  cases process with
  | none => exact h
  | some p =>
    refine Act.Ends.bind (p := fun _ (u : Running σ) => Founded u.status) (founded_of_shutdown v) ?_
    intro result u hu
    split <;> exact hu

theorem founded_after {r : Running σ} (h : Founded r.status) (c : Call) :
    Founded (c.after l m r).status := by
  cases c with
  | start config =>
    show (l.start m config).Ends r fun _ r' => Founded r'.status
    apply (start_status config r).imp
    intro result r' hr'
    cases result with
    | ok =>
      obtain ⟨p, hp⟩ := hr'
      rw [hp]
      exact ⟨fun _ => rfl, fun _ => rfl⟩
    | error f =>
      obtain ⟨hprocess, hconfig, hstage, -⟩ := hr'
      exact ⟨fun hs => hprocess ▸ h.process (hstage hs), fun _ => hconfig ▸ rfl⟩
  | chat q => exact (chat_status q r).symm ▸ h
  | shutdown => exact founded_of_shutdown r
  | release => exact founded_of_release h

theorem founded_reached (w : σ) (calls : List Call) : Founded (reached l m w calls).status := by
  have hnew : Founded ({ world := w } : Running σ).status := ⟨nofun, nofun⟩
  exact List.foldlRecOn calls (motive := fun r : Running σ => Founded r.status) _ hnew
    fun _ h c _ => founded_after h c

/-- The server is asked for a completion just if the provider serves. -/
theorem chat_asks {r : Running (Noted Machine.Event σ)} (h : Founded r.status) (q : Request) :
    (l.chat m.watched q).Ends r fun _ r' =>
      ∃ events, r'.world.notes = r.world.notes ++ events ∧
        ((∃ config value, .complete config value ∈ events) ↔ r.status.stage = .serving) := by
  by_cases hstage : r.status.stage = .serving
  · obtain ⟨config, hconfig⟩ := Option.isSome_iff_exists.1 (h.config hstage)
    obtain ⟨last, -, hends⟩ := chat_course (l := l) (m := m) (q := q) hconfig hstage
    apply hends.imp
    rintro _ r' ⟨-, -, hnotes⟩
    refine ⟨_, hnotes, iff_of_true ⟨config, Completion.payload q, ?_⟩ hstage⟩
    exact List.mem_append_right _ List.mem_cons_self
  · have hsame : (l.chat m.watched q).Ends r fun _ r' => r' = r := chat_of_idle q hstage
    apply hsame.imp
    rintro _ r' rfl
    exact ⟨[], (List.append_nil _).symm, iff_of_false nofun hstage⟩

theorem reached_snoc (w : σ) (calls : List Call) (c : Call) :
    reached l m w (calls ++ [c]) = c.after l m (reached l m w calls) :=
  reached_append l m w calls [c]

theorem reached_of_shutdown (w : σ) (calls : List Call) {later : List Call}
    (hlater : ∀ config, .start config ∉ later) :
    reached l m w (calls ++ .shutdown :: later) = reached l m w (calls ++ [.shutdown]) := by
  rw [reached_snoc, reached_append, List.foldl_cons]
  exact foldl_after_of_idle (shutdown_status _) hlater

/-- What holds of a provider whatever calls it had. Where it serves, it has a process and a config.
After a start that is reported as a failure to start it has failed. After a shutdown it has no
process and does not serve, and until the next start all stays as it is and nothing is asked of the
machine. A request changes nothing that is remembered, and reaches the server just where the
provider serves. -/
theorem lifecycle (l : Llamafile) (m : Machine σ) (w : σ) (calls : List Call) :
    Founded (l.reached m w calls).status ∧
    (∀ config e, ((l.start m config).run (l.reached m w calls)).result = .error (.known e) →
      e.kind.isInitialization → (l.reached m w (calls ++ [.start config])).status.stage = .failed) ∧
    (Idle (l.reached m w (calls ++ [.shutdown])) ∧
      ∀ later, (∀ config, .start config ∉ later) →
        l.reached m w (calls ++ .shutdown :: later) = l.reached m w (calls ++ [.shutdown]) ∧
        l.asked m w (calls ++ .shutdown :: later) = l.asked m w (calls ++ [.shutdown])) ∧
    ∀ q, (l.reached m w (calls ++ [.chat q])).status = (l.reached m w calls).status ∧
      ∃ events, l.asked m w (calls ++ [.chat q]) = l.asked m w calls ++ events ∧
        ((∃ config value, .complete config value ∈ events) ↔
          (l.reached m w calls).status.stage = .serving) := by
  have hfounded := founded_reached (l := l) (m := m) w calls
  refine ⟨hfounded, fun config e hresult hkind => ?_, ⟨?_, fun later hlater => ⟨?_, ?_⟩⟩,
    fun q => ⟨?_, ?_⟩⟩
  · have hstart := start_status (l := l) (m := m) config (l.reached m w calls)
    unfold Act.Ends at hstart
    rw [hresult] at hstart
    rw [reached_snoc]
    exact hstart.2.2.2 e rfl hkind
  · rw [reached_snoc]
    exact shutdown_status _
  · exact reached_of_shutdown w calls hlater
  · exact congrArg (fun r : Running (Noted Machine.Event σ) => r.world.notes)
      (reached_of_shutdown _ calls hlater)
  · rw [reached_snoc]
    exact chat_status q _
  · have hstatus := (reached_watched l m w calls).1
    obtain ⟨events, hnotes, hasks⟩ := chat_asks (l := l) (m := m)
      (founded_reached (m := m.watched) ⟨w, []⟩ calls) q
    refine ⟨events, ?_, hstatus ▸ hasks⟩
    rw [asked, reached_snoc]
    exact hnotes

def crowded : Scripted.MachineWorld where
  spawnFailure := some ⟨12, "Cannot allocate memory", none, none⟩

/-- A provider that is started, serves a request and is shut down, and one whose start fails. -/
theorem lifecycle_visited :
    (ofUrl.reached Scripted.MachineWorld.scripted {} [.start {}]).status.stage = .serving ∧
      (ofUrl.reached Scripted.MachineWorld.scripted {} [.start {}]).status.process.isSome ∧
      (∃ config value, .complete config value ∈ ofUrl.asked Scripted.MachineWorld.scripted {}
        ([.start {}] ++ [.chat ⟨[⟨.user, "hi"⟩], none, none⟩])) ∧
      (ofUrl.reached Scripted.MachineWorld.scripted {}
        ([.start {}, .chat ⟨[⟨.user, "hi"⟩], none, none⟩] ++ [.shutdown])).status.process = none ∧
      ofUrl.reached Scripted.MachineWorld.scripted {}
          ([.start {}, .chat ⟨[⟨.user, "hi"⟩], none, none⟩] ++ .shutdown :: [.release]) =
        ofUrl.reached Scripted.MachineWorld.scripted {}
          ([.start {}, .chat ⟨[⟨.user, "hi"⟩], none, none⟩] ++ [.shutdown]) ∧
      (ofUrl.reached Scripted.MachineWorld.scripted crowded [.start {}]).status.stage =
        .failed := by
  have hserving :
      (ofUrl.reached Scripted.MachineWorld.scripted {} [.start {}]).status.stage = .serving := rfl
  have hresult : ((ofUrl.start Scripted.MachineWorld.scripted {}).run
      (ofUrl.reached Scripted.MachineWorld.scripted crowded [])).result =
        .error (.known (ofUrl.spawnFailure ⟨12, "Cannot allocate memory", none, none⟩)) := rfl
  have hkind : (ofUrl.spawnFailure
      ⟨12, "Cannot allocate memory", none, none⟩).kind.isInitialization := by
    decide
  obtain ⟨hfounded, -, -, hchat⟩ :=
    lifecycle ofUrl Scripted.MachineWorld.scripted {} [.start {}]
  obtain ⟨-, -, ⟨hidle, hquiet⟩, -⟩ := lifecycle ofUrl Scripted.MachineWorld.scripted {}
    [.start {}, .chat ⟨[⟨.user, "hi"⟩], none, none⟩]
  obtain ⟨-, hfailed, -⟩ := lifecycle ofUrl Scripted.MachineWorld.scripted crowded []
  obtain ⟨-, events, hevents, hasks⟩ := hchat ⟨[⟨.user, "hi"⟩], none, none⟩
  obtain ⟨config, value, hmem⟩ := hasks.2 hserving
  refine ⟨hserving, hfounded.process hserving, ⟨config, value, ?_⟩, hidle.1,
    (hquiet [.release] (by simp)).1, hfailed {} _ hresult hkind⟩
  rw [hevents]
  exact List.mem_append_right _ hmem

end ChatHost.Llamafile
