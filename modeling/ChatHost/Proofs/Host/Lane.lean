import ChatHost.Proofs.Agree
import ChatHost.Proofs.Host.Course
import ChatHost.Scripted.Host

set_option autoImplicit false

/-!
What belongs to one session: the session under its handle, the leases on its provider, what it sees
of the outside world, and what has been asked of its provider. The steps of calls on other sessions
leave all of this as it is.
-/

namespace ChatHost

variable {σ γ α : Type}

/-- What a note tells of the use of the given provider. -/
def Host.Event.asked? (n : Nat) : Host.Event → Option Provider.Event
  | .provider m event => if m = n then some event else none
  | _ => none

def Noted.asked (n : Nat) (w : Noted Host.Event σ) : List Provider.Event :=
  w.notes.filterMap (·.asked? n)

/-- What a session sees of a world in which notes are taken. -/
def Noted.side (view : σ → γ) (n : Nat) (w : Noted Host.Event σ) : γ × List Provider.Event :=
  (view w.world, w.asked n)

/-- The same check of the URLs of models in a world in which notes are taken. -/
def Host.noteChecks (check : Option (UrlCheck σ)) : Option (UrlCheck (Noted Host.Event σ)) :=
  check.map fun check parts => Noted.noting (.checked parts) (check parts)

/-- What belongs to the session under a handle whose provider is the given one. -/
def Host.lane (view : σ → γ) (n : Nat) (k : Handle) (h : Host (Noted Host.Event σ)) :
    Option Session × Lease × γ × List Provider.Event :=
  (h.registry.get? k, h.leaseOf n, h.world.side view n)

/-- Whether all that a provider does has a property. -/
structure Provider.All (p : (α : Type) → Act σ α → Prop) (x : Provider σ) : Prop where
  start (config : ServerConfig) : p _ (x.start config)
  ask (r : Request) : p _ (x.ask r)
  answer (r : Request) : p _ (x.answer r)
  shutdown : p _ x.shutdown

/-- Whether the outside world serves one session apart from all others: what it does for the session
depends on what the session sees of it, and what it does for others leaves this as it is. -/
structure Surroundings.Apart (env : Surroundings σ) (view : σ → γ) (n : Nat) : Prop where
  day : env.today.Sees view
  today : env.today.Preserves view
  make (m : Model) : (env.make n m).Sees view
  provider : (env.provider n).All fun _ a => a.Sees view
  makeOther {i : Nat} {m : Model} {w : σ} (h : ((env.make i m).run w).result = .ok () → i ≠ n) :
    view ((env.make i m).run w).world = view w
  otherProvider {i : Nat} (hi : i ≠ n) : (env.provider i).All fun _ a => a.Preserves view

/-- Whether the way to tools at an endpoint serves the session under one handle apart, when it is
used for the session under another. -/
def Surroundings.Serves (env : Surroundings σ) (view : σ → γ) (k j : Handle)
    (endpoint : Text.Letters) : Prop :=
  if j = k then env.transport.At (fun _ a => a.Sees view) endpoint
  else env.transport.At (fun _ a => a.Preserves view) endpoint

namespace Noted

variable {view : σ → γ} {n : Nat}

theorem asked_append (w : σ) (notes added : List Host.Event) :
    (Noted.mk w (notes ++ added)).asked n =
      (Noted.mk w notes).asked n ++ added.filterMap (·.asked? n) :=
  List.filterMap_append

theorem side_noting {e : Host.Event} (he : e.asked? n = none) {a : Act σ α}
    (ha : a.Preserves view) : (noting e a).Preserves (side view n) := by
  intro w
  have hnotes := asked_append (n := n) (a.run w.world).world w.notes [e]
  rw [List.filterMap_cons, he, List.filterMap_nil, List.append_nil] at hnotes
  exact Prod.ext (ha w.world) hnotes

theorem side_silent {a : Act σ α} (ha : a.Preserves view) : (silent a).Preserves (side view n) :=
  fun w => Prod.ext (ha w.world) rfl

end Noted

namespace Surroundings

variable {env : Surroundings σ} {view : σ → γ} {n : Nat}

theorem side_transport {endpoint : Text.Letters}
    (h : env.transport.At (fun _ a => a.Preserves view) endpoint) :
    env.noted.transport.At (fun _ a => a.Preserves (Noted.side view n)) endpoint where
  connect := Noted.side_noting rfl h.connect
  list := Noted.side_noting rfl h.list
  call name arguments := Noted.side_noting rfl (h.call name arguments)
  close := Noted.side_noting rfl h.close

theorem Apart.side_provider (h : env.Apart view n) {m : Nat} (hm : m ≠ n) :
    (env.noted.provider m).All fun _ a => a.Preserves (Noted.side view n) := by
  have hnote (event : Provider.Event) : (Host.Event.provider m event).asked? n = none :=
    if_neg hm
  exact
    { start := fun config => Noted.side_noting (hnote _) ((h.otherProvider hm).start config)
      ask := fun r => Noted.side_noting (hnote _) ((h.otherProvider hm).ask r)
      answer := fun r => Noted.side_silent ((h.otherProvider hm).answer r)
      shutdown := Noted.side_noting (hnote _) (h.otherProvider hm).shutdown }

end Surroundings

namespace Host

variable {env : Surroundings σ} {view : σ → γ} {n m : Nat} {k j : Handle}

theorem lane_within {a : Act (Noted Host.Event σ) α} (ha : a.Preserves (Noted.side view n)) :
    (within a).Preserves (lane view n k) := by
  intro h
  have hside := ha h.world
  exact congrArg (fun side => (h.registry.get? k, h.leaseOf n, side)) hside

theorem lane_look (j : Handle) (f : Session → α) : (look j f).Preserves (lane view n k) :=
  fun _ => rfl

theorem lane_registry {h : Host (Noted Host.Event σ)} {r : Registry Session}
    (hr : r.get? k = h.registry.get? k) :
    lane view n k { h with registry := r } = lane view n k h :=
  congrArg (fun session => (session, h.leaseOf n, h.world.side view n)) hr

theorem lane_change (hj : j ≠ k) (f : Session → Session) :
    (change j f).Preserves (lane view n k) := by
  intro h
  obtain ⟨r, hv, hr⟩ := change_frame j f h
  exact (congrArg (lane view n k) hv).trans (lane_registry (hr k hj.symm))

theorem onSession_lane (hj : j ≠ k) :
    OnSession (fun _ a => a.Preserves (lane (σ := σ) view n k)) j :=
  ⟨lane_look j, fun _ => lane_change hj _⟩

theorem lane_setLease (hm : m ≠ n) (l : Lease) (h : Host (Noted Host.Event σ)) :
    ((leasePlace m).set l h).lane view n k = h.lane view n k := by
  have hlease : ((leasePlace m).set l h).leaseOf n = h.leaseOf n := by
    rw [leaseOf, leasePlace, OrderedMap.get?_put, if_neg hm.symm]
    rfl
  exact congrArg (fun lease => (h.registry.get? k, lease, h.world.side view n)) hlease

theorem lane_acquire (hm : m ≠ n) : ((leasePlace m).acquire).Preserves (lane view n k) :=
  fun h => lane_setLease hm _ h

theorem onLeases_lane (hp : env.Apart view n) (hm : m ≠ n) :
    OnLeases (fun _ a => a.Preserves (lane view n k)) env.noted m where
  read _ := rfl
  update _ h := lane_setLease hm _ h
  shutdown := lane_within (hp.side_provider hm).shutdown

theorem lane_today (hp : env.Apart view n) :
    (within env.noted.today).Preserves (lane view n k) :=
  lane_within (Noted.side_silent hp.today)

theorem lane_visitEndpoint {tools : Tools} {endpoint : Text.Letters}
    (ht : ∀ e, Tool.endpoint? endpoint = some e →
      env.transport.At (fun _ a => a.Preserves view) e) :
    (visitEndpoint env.noted tools endpoint).Preserves (lane view n k) := by
  refine lane_within ?_
  exact Tool.closed_visit (Act.closed_preserves _)
    (fun e he => Surroundings.side_transport (ht e he)) tools

theorem lane_ask (hp : env.Apart view n) (hm : m ≠ n) (request : Request) :
    (ask env.noted m request).Preserves (lane view n k) :=
  lane_within ((hp.side_provider hm).ask request)

theorem lane_answer (hp : env.Apart view n) (hm : m ≠ n) (request : Request) :
    (within ((env.noted.provider m).answer request)).Preserves (lane view n k) :=
  lane_within ((hp.side_provider hm).answer request)

theorem lane_processText {tools : Tools}
    (ht : Tool.Within (env.transport.At fun _ a => a.Preserves view) tools) (reply : String) :
    (within (Tool.processText env.validator env.noted.transport tools reply)).Preserves
      (lane view n k) :=
  lane_within (Tool.closed_processText (Act.closed_preserves _)
    (fun name tool htool => Surroundings.side_transport (ht name tool htool)) reply)

theorem lane_makeProvider (hp : env.Apart view n) (model : Model)
    (h : Host (Noted Host.Event σ)) :
    (makeProvider env.noted model).Ends h fun result v =>
      result ≠ .ok n → v.lane view n k = h.lane view n k := by
  have hmake : (within (env.noted.make h.made model)).Ends h fun result v =>
      (result = .ok () → h.made ≠ n) → v.lane view n k = h.lane view n k := by
    intro hother
    have hnotes := Noted.asked_append (n := n) ((env.make h.made model).run h.world.world).world
      h.world.notes [.made h.made model]
    have hside : ((env.noted.make h.made model).run h.world).world.side view n =
        h.world.side view n :=
      Prod.ext (hp.makeOther hother) (hnotes.trans (List.append_nil _))
    exact congrArg (fun side => (h.registry.get? k, h.leaseOf n, side)) hside
  -- the number is read first, and nothing else may be made meanwhile
  refine Act.Ends.bind (p := fun number v => number = h.made ∧ v = h) ⟨rfl, rfl⟩ ?_
  rintro number v ⟨rfl, rfl⟩
  refine Act.Ends.bind hmake fun result u hu => ?_
  cases result with
  | error f => exact fun _ => hu nofun
  | ok => exact fun hresult => hu fun _ hmade => hresult (congrArg _ hmade)

theorem lane_beginStart (hp : env.Apart view n) (model : Input) {check : Option (UrlCheck σ)}
    (hcheck : ∀ c, check = some c → ∀ parts, (c parts).Preserves view)
    (h : Host (Noted Host.Event σ)) :
    (beginStart env.noted model (noteChecks check)).Ends h fun result v =>
      (∀ s, result = .ok s → s.provider ≠ n) → v.lane view n k = h.lane view n k := by
  have hclosed := Act.closed_preserves (lane view n k)
  have hchoose (name : String) : (chooseModel env.noted name).Preserves (lane view n k) :=
    closed_chooseModel hclosed _ name
  have hauthorize (chosen : Model) :
      (authorize (noteChecks check) chosen).Preserves (lane view n k) := by
    refine closed_authorize hclosed (fun c hc parts => ?_) chosen
    obtain ⟨c', hc', rfl⟩ := Option.map_eq_some_iff.1 hc
    exact lane_within (Noted.side_noting rfl (hcheck c' hc' parts))
  unfold beginStart
  split
  · exact fun _ => rfl
  · refine Act.Ends.andThen ((hchoose _).ends h) (fun chosen v hv => ?_) fun _ v hv _ => hv
    refine Act.Ends.andThen ((hauthorize chosen).ends v) (fun _ u hu => ?_)
      fun _ u hu _ => hu.trans hv
    refine Act.Ends.andThen (lane_makeProvider hp chosen u) (fun number t ht hother => ?_)
      fun _ t ht _ => ((ht nofun).trans hu).trans hv
    have hnumber : number ≠ n := hother _ rfl
    exact ((ht fun hsame => hnumber (Except.ok.inj hsame)).trans hu).trans hv

theorem lane_endStart (hp : env.Apart view n) {s : Starting} (hm : s.provider ≠ n)
    (h : Host (Noted Host.Event σ)) :
    (endStart env.noted s).Ends h fun result v =>
      result ≠ .ok k → v.lane view n k = h.lane view n k := by
  have hall := hp.side_provider hm
  have hup := lane_within (k := k)
    (Session.closed_bringUp (Act.closed_preserves _) (hall.start env.config) hall.shutdown)
  refine Act.Ends.bind (hup.ends h) fun started v hv => ?_
  rcases started with (e | f) | ⟨⟩
  · exact fun _ => hv
  · exact fun _ => hv
  · have hregister (t : Session) : (register t).Ends v fun result u =>
        result ≠ .ok k → u.lane view n k = v.lane view n k := by
      refine (register_ends t v).imp fun result u hu hother => ?_
      obtain ⟨rfl, hresult⟩ := hu
      refine lane_registry ?_
      rw [Registry.get?_insert]
      refine if_neg fun hnew => hother ?_
      rw [hresult, if_pos hnew.1, hnew.2]
    refine Act.Ends.andThen (hregister _) (fun j u hu hother => ?_) fun _ u hu _ =>
      (hu nofun).trans hv
    exact (hu fun hsame => hother (congrArg _ (Except.ok.inj hsame))).trans hv

theorem lane_beginRound (hp : env.Apart view n) (h : Host (Noted Host.Event σ))
    (hm : ∀ s, h.registry.get? j = some s → s.provider ≠ n) :
    (beginRound env.noted j).Ends h fun _ v => v.lane view n k = h.lane view n k := by
  refine Act.Ends.andThen (look_result j _ h) ?_ ?_
  · rintro ⟨m, snapshot⟩ v ⟨rfl, hlooked⟩
    obtain ⟨s, hs, hx⟩ := hlooked _ rfl
    cases hx
    have hround : Act.Preserves (lane view n k) (do
        (leasePlace s.provider).acquire
        ask env.noted s.provider s.snapshot.request
        return (Except.ok ⟨j, s.provider, s.snapshot⟩ : Except (Failure HostError) Round)) :=
      (lane_acquire (hm s hs)).bind fun _ => (lane_ask hp (hm s hs) _).bind fun _ =>
        Act.preserves_pure _
    exact hround.ends v
  · rintro e v ⟨rfl, -⟩
    exact rfl

theorem lane_remove (hj : j ≠ k) (h : Host (Noted Host.Event σ)) :
    Host.lane view n k { h with registry := (h.registry.remove j).2 } = h.lane view n k :=
  lane_registry ((Registry.get?_remove ..).trans (if_neg hj.symm))

end Host

namespace Operation

variable {env : Surroundings σ} {view : σ → γ} {n : Nat} {k : Handle}

/-- Whether an operation is one on the session under the given handle. Which sessions are closed
together is not said here. -/
def names (k : Handle) : Operation σ → Bool
  | .getModel j | .setOptions j _ | .getOptions j | .prompt j _ | .readResponse j | .close j =>
    j = k
  | .setModel _ _ | .closeAll => false

/-- Whether what an operation waits for is the business of other sessions. -/
def Pending.Foreign (n : Nat) (k : Handle) : Pending → Prop
  | .starting s => s.provider ≠ n
  | .visiting j _ _ _ _ => j ≠ k
  | .hearing r | .scanning r _ | .hearingAgain r _ => r.handle ≠ k ∧ r.provider ≠ n
  | .releasing m _ | .closing _ m | .closingEach _ m _ => m ≠ n

/-- The first step of an operation on another session. -/
theorem start_lane (hp : env.Apart view n) (op : Operation σ) (hname : op.names k = false)
    (hall : op ≠ .closeAll) (h : Host (Noted Host.Event σ))
    (hprovider : ∀ j s, j ≠ k → h.registry.get? j = some s → s.provider ≠ n)
    (hcheck : ∀ model c, op = .setModel model (some c) → ∀ parts, (c parts).Preserves view) :
    (op.noted.start env.noted).Ends h fun q v =>
      (∀ s, q = .waits (.starting s) → s.provider ≠ n) → v.lane view n k = h.lane view n k := by
  have hclosed := Act.closed_preserves (Host.lane view n k)
  cases op with
  | setModel model check =>
    have hother : ∀ c, check = some c → ∀ parts, (c parts).Preserves view := by
      rintro c rfl
      exact hcheck model c rfl
    have hstart := Host.lane_beginStart (k := k) hp model hother h
    refine Act.Ends.bind hstart fun result v hv => ?_
    cases result with
    | error e => exact fun _ => hv nofun
    | ok s => exact fun hother => hv fun s' hs => hother s' (by rw [Except.ok.inj hs]; rfl)
  | getModel j => exact fun _ => rfl
  | setOptions j input =>
    have hj : j ≠ k := by simpa [names] using hname
    refine Act.Ends.bind (Host.beginConfigure_reads j input h) ?_
    rintro result v ⟨rfl, -⟩
    cases result with
    | error e => exact fun _ => rfl
    | ok options =>
      dsimp only
      split
      · exact fun _ => rfl
      · have happly : (Host.applyOptions env.noted j options none).Preserves
            (Host.lane view n k) := Host.closed_applyOptions hclosed (Host.onSession_lane hj)
              (Host.lane_today hp) options none
        exact Act.Ends.bind (happly.ends v) fun _ u hu _ => hu
  | getOptions j => exact fun _ => rfl
  | prompt j text =>
    have hj : j ≠ k := by simpa [names] using hname
    have hprompt : (Host.prompt j text).Preserves (Host.lane view n k) :=
      Host.closed_prompt hclosed (Host.onSession_lane hj) text
    exact Act.Ends.bind (hprompt.ends h) fun _ v hv _ => hv
  | readResponse j =>
    have hj : j ≠ k := by simpa [names] using hname
    exact Act.Ends.bind (Host.lane_beginRound hp h fun s hs => hprovider j s hj hs)
      fun result v hv _ => hv
  | close j =>
    have hj : j ≠ k := by simpa [names] using hname
    refine Act.Ends.bind (Host.beginClose_ends j h) ?_
    rintro provider v ⟨-, rfl⟩
    cases provider <;> exact fun _ => Host.lane_remove hj h
  | closeAll => exact absurd rfl hall

/-- A further step of an operation that is the business of other sessions. -/
theorem resume_lane (hp : env.Apart view n) (op : Operation (Noted Host.Event σ)) (p : Pending)
    (hcourse : Call.OnCourse (env.Serves view k) ⟨op, .waits p⟩) (hforeign : p.Foreign n k)
    (hall : ∀ j m left, p ≠ .closingEach j m left) (h : Host (Noted Host.Event σ)) :
    (resume env.noted p).Ends h fun q v =>
      ((∃ s, p = .starting s) → q ≠ .ended (.ok (.handle k))) →
        v.lane view n k = h.lane view n k := by
  have hclosed := Act.closed_preserves (Host.lane view n k)
  have hround (r : Round) (hr : r.handle ≠ k)
      (ht : Tool.Within (env.Serves view k r.handle) (r.snapshot.tools.getD [])) :
      Tool.Within (env.transport.At fun _ a => a.Preserves view) (r.snapshot.tools.getD []) := by
    intro name tool htool
    have hserves := ht name tool htool
    rwa [Surroundings.Serves, if_neg hr] at hserves
  cases p with
  | starting s =>
    have hend := Host.lane_endStart (k := k) hp hforeign h
    refine Act.Ends.bind hend fun result v hv => ?_
    cases result with
    | error e => exact fun _ => hv nofun
    | ok j =>
      exact fun hother => hv fun hsame => hother ⟨s, rfl⟩ (by rw [Except.ok.inj hsame]; rfl)
  | visiting j options tools endpoint left =>
    have hvisit : (Host.visitEndpoint env.noted tools endpoint).Preserves
        (Host.lane view n k) := by
      cases op with
      | setOptions i input =>
        obtain ⟨rfl, -, hdeclared⟩ := hcourse
        refine Host.lane_visitEndpoint fun e he => ?_
        have hserves := hdeclared endpoint List.mem_cons_self e he
        rwa [Surroundings.Serves, if_neg hforeign] at hserves
      | _ => cases hcourse
    refine Act.Ends.bind (hvisit.ends h) fun found v hv => ?_
    cases left with
    | nil =>
      have hend : (Host.endConfigure env.noted j options found).Preserves (Host.lane view n k) :=
        Host.closed_endConfigure hclosed (Host.onSession_lane hforeign) (Host.lane_today hp)
          options found
      exact Act.Ends.bind (hend.ends v) fun _ u hu _ => hu.trans hv
    | cons next left => exact fun _ => hv
  | hearing r =>
    obtain ⟨hr, hm⟩ := hforeign
    have hreply : (Host.firstReply env.noted r).Preserves (Host.lane view n k) :=
      Host.closed_firstReply hclosed (Host.onSession_lane hr) (Host.lane_answer hp hm _)
    exact Act.Ends.bind (hreply.ends h) fun _ v hv _ => hv
  | scanning r reply =>
    obtain ⟨hr, hm⟩ := hforeign
    cases op with
    | readResponse i =>
      obtain ⟨rfl, ht⟩ := hcourse
      have hcall : (Host.callFromReply env.noted r reply).Preserves (Host.lane view n k) :=
        Host.closed_callFromReply hclosed (Host.onSession_lane hr) (Host.lane_ask hp hm)
          (Host.lane_processText (hround r hr ht) reply)
      exact Act.Ends.bind (hcall.ends h) fun _ v hv _ => hv
    | _ => cases hcourse
  | hearingAgain r request =>
    obtain ⟨hr, hm⟩ := hforeign
    have hreply : (Host.secondReply env.noted r request).Preserves (Host.lane view n k) :=
      Host.closed_secondReply hclosed (Host.onSession_lane hr) (Host.lane_answer hp hm _)
    exact Act.Ends.bind (hreply.ends h) fun _ v hv _ => hv
  | releasing m result =>
    have hend : (Host.endRound env.noted m result).Preserves (Host.lane view n k) :=
      Host.closed_endRound hclosed (Host.onLeases_lane hp hforeign) result
    exact Act.Ends.bind (hend.ends h) fun _ v hv _ => hv
  | closing j m =>
    have hend : (Host.endClose env.noted j m).Preserves (Host.lane view n k) :=
      Host.closed_endClose hclosed (Host.onLeases_lane hp hforeign) j
    exact Act.Ends.bind (hend.ends h) fun _ v hv _ => hv
  | closingEach j m left => exact absurd rfl (hall j m left)

end Operation

namespace Scripted.HostWorld

variable {α : Type} {n m : Nat}

/-- What a session sees of the scripted world: the script of its provider, and all endpoints. -/
def seen (n : Nat) (w : HostWorld) :
    ProviderScript × OrderedMap Text.Letters Endpoint × OrderedMap String Handler :=
  (w.scriptOf n, w.tools.endpoints, w.tools.handlers)

theorem scriptOf_put (m n : Nat) (s : ProviderScript) (w : HostWorld) :
    scriptOf { w with scripts := OrderedMap.put m s w.scripts } n =
      if n = m then s else w.scriptOf n := by
  unfold scriptOf
  rw [OrderedMap.get?_put]
  split_ifs <;> rfl

theorem sees_script (a : Act ProviderScript α) :
    Act.Sees (seen n) (a.zoom (scriptOf · n) fun s w =>
      { w with scripts := OrderedMap.put n s w.scripts }) := by
  intro w v hw
  obtain ⟨hscript, htools⟩ := Prod.mk.inj hw
  have hresult : (a (w.scriptOf n)).result = (a (v.scriptOf n)).result := by rw [hscript]
  have hworld : (a (w.scriptOf n)).world = (a (v.scriptOf n)).world := by rw [hscript]
  have hput (w : HostWorld) (s : ProviderScript) :
      scriptOf { w with scripts := OrderedMap.put n s w.scripts } n = s :=
    (scriptOf_put ..).trans (if_pos rfl)
  exact ⟨hresult, Prod.ext ((hput ..).trans (hworld.trans (hput ..).symm)) htools⟩

theorem preserves_script (hm : m ≠ n) (a : Act ProviderScript α) :
    Act.Preserves (seen n) (a.zoom (scriptOf · m) fun s w =>
      { w with scripts := OrderedMap.put m s w.scripts }) := by
  intro w
  refine Prod.ext ?_ rfl
  exact (scriptOf_put ..).trans (if_neg hm.symm)

/-- The scripted world serves every session apart. -/
theorem apart (policy : Model.Policy) (config : ServerConfig) (today : Date) (n : Nat) :
    (surroundings policy config today).Apart (seen n) n where
  day _ _ hw := ⟨rfl, hw⟩
  today _ := rfl
  make _ _ _ hw := ⟨rfl, hw⟩
  provider :=
    { start := fun _ => sees_script _
      ask := fun _ => sees_script _
      answer := fun _ => sees_script _
      shutdown := sees_script _ }
  makeOther _ := rfl
  otherProvider hi :=
    { start := fun _ => preserves_script hi _
      ask := fun _ => preserves_script hi _
      answer := fun _ => preserves_script hi _
      shutdown := preserves_script hi _ }

theorem sees_tools {f : ToolWorld → α} (events : ToolWorld → List ToolEvent)
    (hf : ∀ w v, w.endpoints = v.endpoints → w.handlers = v.handlers → f w = f v) :
    Act.Sees (seen n) ((Act.ofWorld fun w => (f w, { w with events := events w })).zoom tools
      fun t w => { w with tools := t }) := by
  intro w v hw
  obtain ⟨-, htools⟩ := Prod.mk.inj hw
  obtain ⟨hendpoints, hhandlers⟩ := Prod.mk.inj htools
  exact ⟨hf _ _ hendpoints hhandlers, hw⟩

theorem serves (policy : Model.Policy) (config : ServerConfig) (today : Date) (n : Nat)
    (k j : Handle) (endpoint : Text.Letters) :
    (surroundings policy config today).Serves (seen n) k j endpoint := by
  unfold Surroundings.Serves
  split_ifs
  · refine ⟨?_, ?_, ?_, ?_⟩
    · refine sees_tools (fun w => w.events ++ [.connect endpoint]) fun w v hendpoints _ => ?_
      simp only [ToolWorld.connectAnswer, hendpoints]
    · refine sees_tools (fun w => w.events) fun w v hendpoints _ => ?_
      simp only [ToolWorld.listAnswer, hendpoints]
    · intro name arguments
      refine sees_tools (fun w => w.events ++ [.call endpoint name arguments])
        fun w v _ hhandlers => ?_
      simp only [ToolWorld.callAnswer, hhandlers]
    · exact sees_tools (f := fun _ => Except.ok ()) (fun w => w.events ++ [.close endpoint])
        fun _ _ _ _ => rfl
  · exact ⟨fun _ => rfl, fun _ => rfl, fun _ _ _ => rfl, fun _ => rfl⟩

end Scripted.HostWorld

end ChatHost
