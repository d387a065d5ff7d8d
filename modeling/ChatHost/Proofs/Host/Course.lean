import ChatHost.Proofs.Host.Telling
import ChatHost.Proofs.Host.Traffic
import ChatHost.Proofs.Host.Turns
import ChatHost.Proofs.Tool.Discovery

set_option autoImplicit false

/-!
The course of a call: what its operation may wait for, and which endpoints it may go to on its way.
The endpoints that options declare for a handle are all that are reached on behalf of its session.
-/

namespace ChatHost

variable {σ : Type} {d : Handle → Text.Letters → Prop}

def Declared (d : Handle → Text.Letters → Prop) (k : Handle) (texts : List Text.Letters) : Prop :=
  ∀ text ∈ texts, ∀ endpoint, Tool.endpoint? text = some endpoint → d k endpoint

def Operation.Declares (d : Handle → Text.Letters → Prop) : Operation σ → Prop
  | .setOptions k input =>
    ∀ options, input.read = .ok options → Declared d k (Host.endpointsToVisit options)
  | _ => True

/-- Whether the tools of every session are at endpoints that are declared for its handle. -/
def Registry.Equips (d : Handle → Text.Letters → Prop) (r : Registry Session) : Prop :=
  ∀ k s, r.get? k = some s → Tool.Within (d k) (s.tools.getD [])

/-- Whether a call waits, if it does, for what its operation may wait for, and goes to declared
endpoints only. -/
def Call.OnCourse (d : Handle → Text.Letters → Prop) (c : Call σ) : Prop :=
  match c.operation, c.progress with
  | _, .ended _ => True
  | .setModel _ _, .waits (.starting _) => True
  | .setOptions k _, .waits (.visiting j _ tools endpoint left) =>
    j = k ∧ Tool.Within (d k) tools ∧ Declared d k (endpoint :: left)
  | .readResponse k, .waits (.hearing r)
  | .readResponse k, .waits (.scanning r _)
  | .readResponse k, .waits (.hearingAgain r _) =>
    r.handle = k ∧ Tool.Within (d k) (r.snapshot.tools.getD [])
  | .readResponse _, .waits (.releasing _ _) => True
  | .close k, .waits (.closing j _) => j = k
  | .closeAll, .waits (.closingEach _ _ _) => True
  | _, .waits _ => False

/-- Sessions are given declared tools only. -/
theorem Retelling.equips {r r' : Registry Session} {es : List Happening} (h : Retelling r r' es)
    (hr : r.Equips d)
    (hes : ∀ x, .restarted x ∈ es → Tool.Within (d x.handle) (x.tools.getD [])) :
    r'.Equips d := by
  intro k s hs
  cases h with
  | kept r' hnext hcells =>
    rcases hcells k with hk | hk
    · exact hr k s (hk.symm.trans hs)
    · rw [hk] at hs
      cases hs
  | told e t ht =>
    rw [Registry.get?_store] at hs
    split_ifs at hs with hk
    · cases hs
      cases e with
      | said j m => exact hk ▸ hr j t ht
      | restarted x => exact hk ▸ hes x (List.mem_singleton_self _)
    · exact hr k s hs
  | opened name provider =>
    rw [Registry.get?_insert] at hs
    split_ifs at hs
    · cases hs
      exact Tool.within_nil _
    · exact hr k s hs

namespace Host

variable {env : Surroundings σ} {α : Type}

theorem beginRound_round (k : Handle) (h : Host σ) :
    (beginRound env k).Ends h fun result _ => ∀ r, result = .ok r →
      r.handle = k ∧ ∃ s, h.registry.get? k = some s ∧ r.provider = s.provider ∧
        r.snapshot = s.snapshot := by
  refine Act.Ends.andThen (look_result k _ h) ?_ fun _ _ _ => nofun
  rintro ⟨n, snapshot⟩ v ⟨-, hlooked⟩ r hr
  obtain ⟨s, hs, hx⟩ := hlooked _ rfl
  cases hx
  cases hr
  exact ⟨rfl, s, hs, rfl, rfl⟩

theorem endStart_handle (s : Starting) (h : Host σ) :
    (endStart env s).Ends h fun result v => ∀ k, result = .ok k →
      v.registry.get? k = some { modelName := s.name, provider := s.provider } := by
  refine Act.Ends.bind (p := fun _ _ => True) trivial ?_
  rintro ((e | f) | ⟨⟩) v -
  · exact nofun
  · exact nofun
  · refine Act.Ends.andThen (register_ends _ v) (fun j u hu k hk => ?_) fun _ _ _ => nofun
    cases hk
    obtain ⟨rfl, hj⟩ := hu
    split_ifs at hj with hlast
    cases hj
    exact (Registry.get?_insert ..).trans (if_pos ⟨hlast, rfl⟩)

end Host

namespace Operation

variable {env : Surroundings σ}

theorem happening_tools {op : Operation σ} {w : σ} {number : Nat} {x : Restart}
    (hx : op.happening env w number = some (.restarted x)) : x.tools = none := by
  cases op with
  | setOptions k input =>
    simp only [happening] at hx
    split at hx
    · split at hx
      · cases hx
      · cases hx
        rfl
    · cases hx
  | prompt k text =>
    simp only [happening] at hx
    split at hx <;> cases hx
  | _ => cases hx

theorem Pending.happening_tools {p : Pending} {w : σ} {number : Nat} {x : Restart}
    (hx : p.happening env w number = some (.restarted x)) :
    ∃ options tools endpoint, p = .visiting x.handle options tools endpoint [] ∧
      x.tools = some ((Tool.visit env.transport tools endpoint).run w).result := by
  have hanswer (round : Round) (request : Request) :
      answer env w round request ≠ some (.restarted x) := by
    unfold answer
    split <;> exact nofun
  cases p with
  | visiting k options tools endpoint left =>
    cases left with
    | nil =>
      obtain ⟨prompt, built, hrestart⟩ := Happening.eq_of_restarted? hx
      cases hrestart
      exact ⟨options, tools, endpoint, rfl, rfl⟩
    | cons => cases hx
  | hearing round => exact absurd hx (hanswer round _)
  | scanning round reply =>
    simp only [happening] at hx
    split at hx <;> cases hx
  | hearingAgain round request => exact absurd hx (hanswer round request)
  | _ => cases hx

/-- What becomes of the sessions under some handles that are to be closed: the first of them that is
there is taken out, if there is one, and those before it were not there. -/
inductive Taken (ks : List Handle) (h : Host σ) : Progress → Host σ → Prop
  | none (hks : ∀ k ∈ ks, h.registry.get? k = none) : Taken ks h (.ended (.ok .done)) h
  | one (before : List Handle) (k : Handle) (left : List Handle) (s : Session)
      (hks : ks = before ++ k :: left) (hbefore : ∀ j ∈ before, h.registry.get? j = none)
      (hs : h.registry.get? k = some s) :
      Taken ks h (.waits (.closingEach k s.provider left))
        { h with registry := (h.registry.remove k).2 }

theorem remove_of_none {k : Handle} {h : Host σ} (hk : h.registry.get? k = Option.none) :
    { h with registry := (h.registry.remove k).2 } = h := by
  rw [Registry.remove_of_absent hk]

theorem closeNext_ends (ks : List Handle) (h : Host σ) :
    (closeNext ks).Ends h (Taken ks h) := by
  induction ks with
  | nil => exact .none nofun
  | cons k ks ih =>
    refine Act.Ends.bind (Host.beginClose_ends k h) ?_
    rintro provider v ⟨hprovider, hv⟩
    cases hs : h.registry.get? k with
    | none =>
      rw [hs] at hprovider
      rw [remove_of_none hs] at hv
      rw [hprovider, hv]
      refine ih.imp fun q u htaken => ?_
      cases htaken with
      | none hks => exact .none (List.forall_mem_cons.2 ⟨hs, hks⟩)
      | one before j left s hks hbefore hj =>
        exact .one (k :: before) j left s (congrArg _ hks)
          (List.forall_mem_cons.2 ⟨hs, hbefore⟩) hj
    | some s =>
      rw [hs] at hprovider
      rw [hprovider, hv]
      exact .one [] k ks s rfl nofun hs

theorem resume_starting (env : Surroundings σ) (s : Host.Starting) (h : Host σ) :
    (resume env (.starting s)).Ends h fun q v =>
      (∃ result, q = .ended result) ∧ ∀ k, q = .ended (.ok (.handle k)) →
        v.registry.get? k = some { modelName := s.name, provider := s.provider } := by
  refine Act.Ends.bind (Host.endStart_handle s h) fun result v hv => ⟨⟨_, rfl⟩, fun k hk => ?_⟩
  cases result with
  | error e => cases hk
  | ok j =>
    cases hk
    exact hv _ rfl

/-- What the first step of an operation leads to is on the course of the operation. -/
theorem start_course (env : Surroundings σ) (op : Operation σ) (hop : op.Declares d) (h : Host σ)
    (hh : h.registry.Equips d) :
    (op.start env).Ends h fun q v => Call.OnCourse d ⟨op, q⟩ ∧ v.registry.Equips d := by
  have hequips : ((op.start env).run h).world.registry.Equips d := by
    refine (op.start_retelling env 0 h).equips hh fun x hx => ?_
    rw [happening_tools (Progress.mem_tells hx).1]
    exact Tool.within_nil _
  refine ⟨?_, hequips⟩
  show (op.start env).Ends h fun q _ => Call.OnCourse d ⟨op, q⟩
  cases op with
  | setModel model check =>
    refine Act.Ends.bind (p := fun _ _ => True) trivial fun result v _ => ?_
    cases result <;> exact trivial
  | getModel k => exact trivial
  | setOptions k input =>
    refine Act.Ends.bind (Host.beginConfigure_reads k input h) fun result v hv => ?_
    cases result with
    | error e => exact trivial
    | ok options =>
      have hdeclared := hop options (hv.2 options rfl)
      obtain ⟨message, endpoints, temperature, topP⟩ := options
      match endpoints with
      | none => exact trivial
      | some [] => exact trivial
      | some (endpoint :: left) => exact ⟨rfl, Tool.within_nil _, hdeclared⟩
  | getOptions k => exact trivial
  | prompt k text => exact trivial
  | readResponse k =>
    refine Act.Ends.bind (Host.beginRound_round k h) fun result v hv => ?_
    cases result with
    | error e => exact trivial
    | ok r =>
      obtain ⟨hk, s, hs, -, hsnapshot⟩ := hv r rfl
      refine ⟨hk, ?_⟩
      rw [hsnapshot]
      exact hh k s hs
  | close k =>
    refine Act.Ends.bind (p := fun _ _ => True) trivial fun provider v _ => ?_
    cases provider with
    | none => exact trivial
    | some n => exact rfl
  | closeAll =>
    refine Act.Ends.bind (p := fun _ _ => True) trivial fun ks v _ => ?_
    exact (closeNext_ends ks v).imp fun q _ hq => by cases hq <;> exact trivial

/-- What a further step of a call leads to is on its course. -/
theorem resume_course (env : Surroundings σ) (op : Operation σ) (p : Pending)
    (hc : Call.OnCourse d ⟨op, .waits p⟩) (h : Host σ) (hh : h.registry.Equips d) :
    (resume env p).Ends h fun q v => Call.OnCourse d ⟨op, q⟩ ∧ v.registry.Equips d := by
  -- of what has happened, only the end of a search gives a session tools
  have hequips : ((resume env p).run h).world.registry.Equips d := by
    refine (resume_retelling env p 0 h).equips hh fun x hx => ?_
    obtain ⟨options, tools, endpoint, rfl, htools⟩ :=
      Pending.happening_tools (Progress.mem_tells hx).1
    rw [htools]
    cases op with
    | setOptions k input =>
      obtain ⟨rfl, hwithin, hdeclared⟩ := hc
      exact Tool.within_visit (hdeclared endpoint List.mem_cons_self) hwithin _
    | _ => cases hc
  refine ⟨?_, hequips⟩
  show (resume env p).Ends h fun q _ => Call.OnCourse d ⟨op, q⟩
  cases p with
  | starting s => exact trivial
  | visiting k options tools endpoint left =>
    cases op with
    | setOptions j input =>
      obtain ⟨rfl, hwithin, hdeclared⟩ := hc
      have hfound := Tool.within_visit (t := env.transport)
        (hdeclared endpoint List.mem_cons_self) hwithin h.world
      refine Act.Ends.bind (a := Host.visitEndpoint env tools endpoint)
        (Host.within_ends (Tool.visit env.transport tools endpoint) h) fun found v hv => ?_
      rw [← hv.1] at hfound
      cases left with
      | nil => exact trivial
      | cons next left =>
        exact ⟨rfl, hfound, fun text htext => hdeclared text (List.mem_cons_of_mem _ htext)⟩
    | _ => cases hc
  | hearing r =>
    cases op with
    | readResponse k =>
      refine Act.Ends.bind (p := fun _ _ => True) trivial fun result v _ => ?_
      cases result with
      | error e => exact trivial
      | ok reply =>
        show Call.OnCourse d ⟨.readResponse k, .waits
          (if r.scans then .scanning r reply else .releasing r.provider (.ok reply))⟩
        split
        · exact hc
        · exact trivial
    | _ => cases hc
  | scanning r reply =>
    cases op with
    | readResponse k =>
      refine Act.Ends.bind (p := fun _ _ => True) trivial fun result v _ => ?_
      rcases result with e | _ | request
      · exact trivial
      · exact trivial
      · exact hc
    | _ => cases hc
  | hearingAgain r request =>
    cases op with
    | readResponse k => exact trivial
    | _ => cases hc
  | releasing n result => exact trivial
  | closing k n => exact trivial
  | closingEach k n left =>
    cases op with
    | closeAll =>
      refine Act.Ends.bind (p := fun _ _ => True) trivial fun result v _ => ?_
      refine Act.Ends.bind (p := fun _ _ => True) trivial fun tolerated u _ => ?_
      cases tolerated with
      | error f => exact trivial
      | ok => exact (closeNext_ends left u).imp fun q _ hq => by cases hq <;> exact trivial
    | _ => cases hc

end Operation

end ChatHost
