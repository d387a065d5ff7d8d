import ChatHost.Host.Close
import ChatHost.Host.Configure
import ChatHost.Host.Round
import ChatHost.Host.Start
import ChatHost.Proofs.Act
import ChatHost.Proofs.Registry

set_option autoImplicit false

/-!
What the steps of operations are made of, and what the smallest of them come to. A property that
goes through the ways in which steps are put together holds of a step when it holds of its parts: of
what is done with a session, with the leases on a provider, and in the outside world.
-/

namespace ChatHost

variable {σ : Type}

theorem Session.closed_bringUp {p : (α : Type) → Act σ α → Prop} (hp : Act.Closed p)
    {provider : Provider σ} {config : ServerConfig} (hstart : p _ (provider.start config))
    (hshutdown : p _ provider.shutdown) : p _ (Session.bringUp provider config) := by
  refine hp.bind hstart fun started => ?_
  rcases started with (e | f) | ⟨⟩
  · refine hp.bind hshutdown fun down => ?_
    rcases down with (e | f) | ⟨⟩
    · exact hp.bind (hp.write _) fun _ => hp.pure _
    · exact hp.pure _
    · exact hp.pure _
  · exact hp.pure _
  · exact hp.pure _

namespace Host

variable {p : (α : Type) → Act (Host σ) α → Prop} {env : Surroundings σ} {k : Handle} {n : Nat}

/-- Whether a property holds of all that is done with the session under a handle. -/
structure OnSession (p : (α : Type) → Act (Host σ) α → Prop) (k : Handle) : Prop where
  look {α : Type} (f : Session → α) : p _ (look k f)
  change {f : Session → Session} (hf : ∀ s, (f s).provider = s.provider) : p _ (change k f)

/-- Whether a property holds of all that is done with the leases on a provider, and of the shutdown
of the provider. -/
structure OnLeases (p : (α : Type) → Act (Host σ) α → Prop) (env : Surroundings σ) (n : Nat) :
    Prop where
  read : p _ (Act.read (leasePlace n).get)
  update (f : Lease → Lease) :
    p _ (Act.modify fun h => (leasePlace n).set (f ((leasePlace n).get h)) h)
  shutdown : p _ (shutdown env n)

theorem OnSession.addMessage (hs : OnSession p k) (m : Message) : p _ (addMessage k m) :=
  hs.change fun _ => rfl

theorem closed_chooseModel (hp : Act.Closed p) (env : Surroundings σ) (name : String) :
    p _ (chooseModel env name) := by
  refine hp.bind (hp.write _) fun _ => ?_
  cases Model.choose env.policy name with
  | model m => exact hp.pure _
  | unsupported candidate r => exact hp.bind (hp.write _) fun _ => hp.pure _

theorem closed_authorize (hp : Act.Closed p) {check : Option (UrlCheck σ)}
    (hcheck : ∀ c, check = some c → ∀ parts, p _ (within (c parts))) (m : Model) :
    p _ (authorize check m) := by
  have hallowed : p _ (allowed check m) := by
    unfold allowed
    split
    · exact hp.pure _
    · split
      · exact hp.pure _
      · exact hp.pure _
      · exact hcheck _ rfl _
  refine hp.bind hallowed fun result => ?_
  rcases result with f | _ | _
  · exact hp.pure _
  · exact hp.bind (hp.write _) fun _ => hp.pure _
  · exact hp.pure _

theorem closed_prompt (hp : Act.Closed p) (hs : OnSession p k) (text : Input) :
    p _ (prompt k text) := by
  unfold prompt
  split
  · exact hp.pure _
  · exact hs.addMessage _

theorem closed_beginConfigure (hp : Act.Closed p) (hs : OnSession p k) (input : OptionsInput) :
    p _ (beginConfigure k input) := by
  have hread : p _ (readOptions input) := by
    unfold readOptions
    split
    · exact hp.pure _
    · exact hp.pure _
    · exact hp.bind (hp.write _) fun _ => hp.pure _
  exact hp.andThen hread fun _ => hp.andThen (hs.look _) fun _ => hp.pure _

theorem closed_applyOptions (hp : Act.Closed p) (hs : OnSession p k)
    (htoday : p _ (within env.today)) (options : Options) (tools : Option Tools) :
    p _ (applyOptions env k options tools) := by
  refine hp.bind htoday fun today => ?_
  split
  · exact hp.pure _
  · refine hp.bind (hp.write _) fun _ => ?_
    refine hp.andThen (hs.look _) fun name => hp.bind (hp.write _) fun _ => ?_
    exact hs.change fun _ => rfl

theorem closed_endConfigure (hp : Act.Closed p) (hs : OnSession p k)
    (htoday : p _ (within env.today)) (options : Options) (tools : Tools) :
    p _ (endConfigure env k options tools) :=
  hp.bind (hp.write _) fun _ => hp.bind (hp.write _) fun _ =>
    closed_applyOptions hp hs htoday options (some tools)

theorem closed_hear (hp : Act.Closed p) {request : Request}
    (hanswer : p _ (within ((env.provider n).answer request))) : p _ (hear env n request) := by
  refine hp.bind hanswer fun result => ?_
  rcases result with (e | f) | m
  · exact hp.bind (hp.write _) fun _ => hp.pure _
  · exact hp.pure _
  · exact hp.pure _

theorem closed_secondReply (hp : Act.Closed p) {r : Round} (hs : OnSession p r.handle)
    {request : Request} (hanswer : p _ (within ((env.provider r.provider).answer request))) :
    p _ (secondReply env r request) :=
  hp.andThen (closed_hear hp hanswer) fun _ => hp.andThen (hs.addMessage _) fun _ => hp.pure _

theorem closed_firstReply (hp : Act.Closed p) {r : Round} (hs : OnSession p r.handle)
    (hanswer : p _ (within ((env.provider r.provider).answer r.snapshot.request))) :
    p _ (firstReply env r) :=
  closed_secondReply hp hs hanswer

theorem closed_callFromReply (hp : Act.Closed p) {r : Round} (hs : OnSession p r.handle)
    (hask : ∀ request, p _ (ask env r.provider request)) {reply : String}
    (hprocess : p _ (within
      (Tool.processText env.validator env.transport (r.snapshot.tools.getD []) reply))) :
    p _ (callFromReply env r reply) := by
  refine hp.bind hprocess fun result => ?_
  rcases result with f | _ | ⟨name, output⟩ | ⟨name, message⟩
  · exact hp.pure _
  · exact hp.bind (hp.write _) fun _ => hp.pure _
  · have htake : p _ (takeOutput env r output) :=
      hp.andThen (hs.addMessage _) fun _ => hp.andThen (hs.look _) fun _ =>
        hp.bind (hask _) fun _ => hp.pure _
    exact hp.andThen htake fun _ => hp.pure _
  · exact hp.bind (hp.write _) fun _ => hp.pure _

theorem closed_release (hp : Act.Closed p) (hl : OnLeases p env n) :
    p _ ((leasePlace n).release (shutdown env n)) := by
  refine hp.bind (hl.update _) fun _ => hp.bind hl.read fun lease => ?_
  split
  · refine hp.bind (hp.write _) fun _ => hp.bind hl.shutdown fun result => ?_
    rcases result with (e | f) | ⟨⟩
    · exact hp.bind (hp.write _) fun _ => hp.pure _
    · exact hp.pure _
    · exact hp.pure _
  · exact hp.pure _

theorem closed_endRound (hp : Act.Closed p) (hl : OnLeases p env n)
    (result : Except (Failure HostError) String) : p _ (endRound env n result) := by
  refine hp.bind (closed_release hp hl) fun released => ?_
  cases released <;> exact hp.pure _

theorem closed_close (hp : Act.Closed p) (hl : OnLeases p env n) :
    p _ ((leasePlace n).close (shutdown env n)) := by
  refine hp.bind hl.read fun lease => hp.bind (hl.update _) fun _ => ?_
  cases lease.closing with
  | already => exact hp.pure _
  | deferred count => exact hp.bind (hp.write _) fun _ => hp.pure _
  | now =>
    refine hp.bind hl.shutdown fun result => ?_
    cases result <;> exact hp.pure _

theorem closed_endClose (hp : Act.Closed p) (hl : OnLeases p env n) (k : Handle) :
    p _ (endClose env k n) := by
  refine hp.bind (closed_close hp hl) fun result => ?_
  rcases result with (e | f) | stopped
  · exact hp.bind (hp.write _) fun _ => hp.pure _
  · exact hp.pure _
  · exact hp.bind (hp.write _) fun _ => hp.pure _

theorem closed_tolerate (hp : Act.Closed p) (k : Handle)
    (result : Except (Failure HostError) Unit) : p _ (tolerate k result) := by
  unfold tolerate
  split
  · exact hp.pure _
  · exact hp.pure _
  · exact hp.bind (hp.write _) fun _ => hp.pure _

theorem look_ends {α : Type} (k : Handle) (f : Session → α) (h : Host σ) :
    (look k f).Ends h fun result v => v = h ∧
      match h.registry.get? k with
      | some s => result = .ok (f s)
      | none => result = .error (.known (unknownHandle k)) := by
  refine ⟨rfl, ?_⟩
  simp only [look, Act.read, Act.run, Registry.look]
  cases h.registry.get? k <;> rfl

theorem look_present {α : Type} {h : Host σ} {s : Session} (hs : h.registry.get? k = some s)
    (f : Session → α) : (look k f).Ends h fun result v => result = .ok (f s) ∧ v = h := by
  have hlook := look_ends k f h
  rw [hs] at hlook
  exact And.symm hlook

theorem look_result {α : Type} (k : Handle) (f : Session → α) (h : Host σ) :
    (look k f).Ends h fun result v => v = h ∧ ∀ x, result = .ok x →
      ∃ s, h.registry.get? k = some s ∧ x = f s := by
  refine (look_ends k f h).imp fun result v hv => ⟨hv.1, fun x hx => ?_⟩
  obtain ⟨-, hlooked⟩ := hv
  cases hs : h.registry.get? k with
  | none =>
    rw [hs] at hlooked
    cases hlooked.symm.trans hx
  | some s =>
    rw [hs] at hlooked
    exact ⟨s, rfl, Except.ok.inj (hx.symm.trans hlooked)⟩

theorem change_ends (k : Handle) (f : Session → Session) (h : Host σ) :
    (change k f).Ends h fun result v =>
      match h.registry.get? k with
      | some s => result = .ok () ∧ v = { h with registry := h.registry.store k (f s) }
      | none => result = .error (.known (unknownHandle k)) ∧ v = h := by
  simp only [change, Act.ends_ofWorld, Registry.change]
  cases h.registry.get? k <;> exact ⟨rfl, rfl⟩

theorem change_present {h : Host σ} {s : Session} (hs : h.registry.get? k = some s)
    (f : Session → Session) :
    (change k f).Ends h fun result v =>
      result = .ok () ∧ v = { h with registry := h.registry.store k (f s) } := by
  have hchange := change_ends k f h
  rw [hs] at hchange
  exact hchange

/-- Other sessions stay as they are. -/
theorem change_frame (k : Handle) (f : Session → Session) (h : Host σ) :
    ∃ r, ((change k f).run h).world = { h with registry := r } ∧
      ∀ j, j ≠ k → r.get? j = h.registry.get? j := by
  have hchange := change_ends k f h
  cases hs : h.registry.get? k with
  | none =>
    rw [hs] at hchange
    exact ⟨h.registry, hchange.2, fun _ _ => rfl⟩
  | some s =>
    rw [hs] at hchange
    exact ⟨_, hchange.2, fun j hj => (Registry.get?_store ..).trans (if_neg hj)⟩

/-- A session is put under the handle that is next, if there is one left. -/
theorem register_ends (s : Session) (h : Host σ) :
    (register s).Ends h fun result v => v = { h with registry := (h.registry.insert s).2 } ∧
      result = if h.registry.next ≤ Registry.lastHandle then .ok (h.registry.next : Handle)
        else .error (.fault .handlesExhausted) := by
  refine Act.Ends.bind (p := fun inserted v => inserted = (h.registry.insert s).1 ∧
    v = { h with registry := (h.registry.insert s).2 }) ⟨rfl, rfl⟩ ?_
  rintro inserted v ⟨rfl, rfl⟩
  rw [Registry.result_insert]
  split_ifs <;> exact ⟨rfl, rfl⟩

theorem beginClose_ends (k : Handle) (h : Host σ) :
    (beginClose k).Ends h fun provider v =>
      provider = (h.registry.get? k).map Session.provider ∧
        v = { h with registry := (h.registry.remove k).2 } := by
  refine Act.Ends.bind (p := fun removed v => removed = h.registry.get? k ∧
    v = { h with registry := (h.registry.remove k).2 }) ⟨rfl, rfl⟩ ?_
  rintro removed v ⟨hremoved, hv⟩
  rw [← hremoved]
  cases removed <;> exact ⟨rfl, hv⟩

end Host

end ChatHost
