import ChatHost.Host.Operation
import ChatHost.Proofs.Host.Steps
import ChatHost.Proofs.OrderedMap

set_option autoImplicit false

/-!
What the steps of operations say in conversations, and when they start one over. This is told of a
step without a look at the session, and the step does to the sessions just what is told of it.
-/

namespace ChatHost

/-- A conversation that is started over by a call. -/
structure Restart where
  handle : Handle
  /-- The number of the call. -/
  call : Nat
  options : Options
  day : Date
  tools : Option Tools
  prompt : Text.Letters
  built : Prompt.build day options.systemMessage (tools.getD []) = .ok prompt

def Restart.opening (r : Restart) : Message :=
  ⟨.system, r.prompt⟩

/-- What a step of a call may do to a conversation. -/
inductive Happening where
  | said (handle : Handle) (m : Message)
  | restarted (r : Restart)

namespace Happening

def handle : Happening → Handle
  | .said k _ => k
  | .restarted r => r.handle

def told : Happening → Session → Session
  | .said _ m, s => s.addMessage m
  | .restarted r, s => s.reset r.options r.opening.content r.tools

/-- The conversation that a call starts over, if there is a prompt for it. -/
def restarted? (k : Handle) (call : Nat) (options : Options) (day : Date) (tools : Option Tools) :
    Option Happening :=
  match h : Prompt.build day options.systemMessage (tools.getD []) with
  | .ok prompt => some (.restarted ⟨k, call, options, day, tools, prompt, h⟩)
  | .error _ => none

theorem restarted?_cases (k : Handle) (call : Nat) (options : Options) (day : Date)
    (tools : Option Tools) :
    (∃ prompt h, restarted? k call options day tools =
      some (.restarted ⟨k, call, options, day, tools, prompt, h⟩)) ∨
      (∃ f, Prompt.build day options.systemMessage (tools.getD []) = .error f) ∧
        restarted? k call options day tools = none := by
  unfold restarted?
  split
  · rename_i prompt h
    exact .inl ⟨prompt, h, rfl⟩
  · rename_i f h
    exact .inr ⟨⟨f, h⟩, rfl⟩

theorem eq_of_restarted? {k : Handle} {call : Nat} {options : Options} {day : Date}
    {tools : Option Tools} {e : Happening} (h : restarted? k call options day tools = some e) :
    ∃ prompt built, e = .restarted ⟨k, call, options, day, tools, prompt, built⟩ := by
  obtain ⟨prompt, built, hsome⟩ | ⟨-, hnone⟩ := restarted?_cases k call options day tools
  · exact ⟨prompt, built, Option.some.inj (h.symm.trans hsome)⟩
  · cases h.symm.trans hnone

def retold (k : Handle) (past : List Happening) (s : Session) : Session :=
  past.foldl (fun s e => if e.handle = k then e.told s else s) s

def said? (k : Handle) : Happening → Option Message
  | .said j m => if j = k then some m else none
  | .restarted _ => none

end Happening

namespace Operation

variable {σ : Type}

/-- What the first step of an operation says or starts over, unless it fails. -/
def happening (env : Surroundings σ) (w : σ) (call : Nat) : Operation σ → Option Happening
  | .prompt k text =>
    match text.decode "prompt" with
    | .ok s => some (.said k ⟨.user, s⟩)
    | .error _ => none
  | .setOptions k input =>
    match input.read with
    | .ok options =>
      if options.hasToolEndpoints then none
      else Happening.restarted? k call options (env.today.run w).result none
    | .error _ => none
  | _ => none

/-- What is said in a round once its provider has answered. -/
def Pending.answer (env : Surroundings σ) (w : σ) (r : Round) (request : Request) :
    Option Happening :=
  match (((env.provider r.provider).answer request).run w).result with
  | .ok m => some (.said r.handle ⟨.assistant, m.content⟩)
  | .error _ => none

/-- What the next step of an operation says or starts over, unless it fails. -/
def Pending.happening (env : Surroundings σ) (w : σ) (call : Nat) : Pending → Option Happening
  | .visiting k options tools endpoint [] =>
    let found := (Tool.visit env.transport tools endpoint).run w
    Happening.restarted? k call options (env.today.run found.world).result (some found.result)
  | .hearing r => answer env w r r.snapshot.request
  | .scanning r reply =>
    match ((Tool.processText env.validator env.transport (r.snapshot.tools.getD [])
      reply).run w).result with
    | .ok (.executed _ output) => some (.said r.handle ⟨.tool, output⟩)
    | _ => none
  | .hearingAgain r request => answer env w r request
  | _ => none

def Progress.failed : Progress → Bool
  | .ended (.error _) | .waits (.releasing _ (.error _)) => true
  | _ => false

def Progress.tells (q : Progress) (e : Option Happening) : List Happening :=
  if q.failed then [] else e.toList

theorem Progress.tells_none (q : Progress) : q.tells none = [] :=
  ite_self _

theorem Progress.mem_tells {q : Progress} {e : Option Happening} {x : Happening}
    (h : x ∈ q.tells e) : e = some x ∧ q.failed = false := by
  unfold Progress.tells at h
  split at h
  · cases h
  · rename_i hq
    exact ⟨by simpa using h, by simpa using hq⟩

end Operation

/-- What a step may do to sessions, while it says or starts over what is given. -/
inductive Retelling (r : Registry Session) : Registry Session → List Happening → Prop
  /-- Sessions stay as they are, or go. -/
  | kept (r' : Registry Session) (hnext : r'.next = r.next)
      (hcells : ∀ k, r'.get? k = r.get? k ∨ r'.get? k = none) : Retelling r r' []
  | told (e : Happening) (s : Session) (hs : r.get? e.handle = some s) :
      Retelling r (r.store e.handle (e.told s)) [e]
  /-- There is one new session, if there is a handle left for it. -/
  | opened (name : String) (provider : Nat) :
      Retelling r (r.insert { modelName := name, provider := provider }).2 []

theorem Retelling.same {r r' : Registry Session} (h : r' = r) : Retelling r r' [] :=
  .kept r' (congrArg Registry.next h) fun _ => .inl (h ▸ rfl)

namespace Host

variable {σ α : Type} {env : Surroundings σ}

theorem keeps_within (a : Act σ α) : (within a).Preserves (Host.registry (σ := σ)) :=
  fun _ => rfl

theorem within_ends (a : Act σ α) (h : Host σ) :
    (within a).Ends h fun x v =>
      x = (a.run h.world).result ∧ v.world = (a.run h.world).world ∧ v.registry = h.registry :=
  ⟨rfl, rfl, rfl⟩

theorem keeps_look (k : Handle) (f : Session → α) :
    (look k f).Preserves (Host.registry (σ := σ)) :=
  fun _ => rfl

/-- What is left of the sessions by a step that tells one of them something, unless it comes to an
error. -/
def Tells {ε : Type} (e : Happening) (h : Host σ) (result : Except ε α) (v : Host σ) : Prop :=
  match result with
  | .error _ => v.registry = h.registry
  | .ok _ => ∃ s, h.registry.get? e.handle = some s ∧
      v.registry = h.registry.store e.handle (e.told s)

theorem change_tells (e : Happening) (h : Host σ) :
    (change e.handle e.told).Ends h (Tells e h) := by
  refine (change_ends e.handle e.told h).imp fun result v hv => ?_
  cases hs : h.registry.get? e.handle with
  | none =>
    rw [hs] at hv
    obtain ⟨rfl, rfl⟩ := hv
    exact rfl
  | some s =>
    rw [hs] at hv
    obtain ⟨rfl, rfl⟩ := hv
    exact ⟨s, hs, rfl⟩

theorem addMessage_tells (k : Handle) (m : Message) (h : Host σ) :
    (addMessage k m).Ends h (Tells (.said k m) h) :=
  change_tells (.said k m) h

theorem Tells.congr {ε : Type} {e : Happening} {h h' : Host σ} {result : Except ε α} {v : Host σ}
    (ht : Tells e h result v) (hh : h.registry = h'.registry) : Tells e h' result v := by
  unfold Tells at *
  rwa [hh] at ht

/-- What is left of the sessions by a step that tells one of them something if there is anything to
tell, and else comes to an error. -/
def TellsAny {α : Type} (e : Option Happening) (h : Host σ) (result : Except (Failure HostError) α)
    (v : Host σ) : Prop :=
  match e with
  | some e => Tells e h result v
  | none => v.registry = h.registry ∧ ∃ f, result = .error f

theorem applyOptions_tells (k : Handle) (call : Nat) (options : Options) (tools : Option Tools)
    (h : Host σ) :
    (applyOptions env k options tools).Ends h
      (TellsAny (Happening.restarted? k call options (env.today.run h.world).result tools) h) := by
  refine Act.Ends.bind (p := fun day v => day = (env.today.run h.world).result ∧
    v.registry = h.registry) ⟨rfl, rfl⟩ ?_
  rintro day v ⟨rfl, hv⟩
  obtain ⟨prompt, hbuilt, hrestart⟩ | ⟨⟨f, hbuilt⟩, hrestart⟩ :=
    Happening.restarted?_cases k call options (env.today.run h.world).result tools
  · rw [hbuilt, hrestart]
    refine Act.Ends.bind (p := fun _ (u : Host σ) => u.registry = h.registry) hv fun _ u hu => ?_
    refine Act.Ends.andThen (p := fun _ (t : Host σ) => t.registry = h.registry) hu
      (fun name t ht => ?_) fun _ t ht => ht
    refine Act.Ends.bind (p := fun _ (x : Host σ) => x.registry = h.registry) ht fun _ x hx => ?_
    exact (change_tells (.restarted ⟨k, call, options, _, tools, prompt, hbuilt⟩) x).imp
      fun _ _ htells => htells.congr hx
  · rw [hbuilt, hrestart]
    exact ⟨hv, _, rfl⟩

theorem endConfigure_tells (k : Handle) (call : Nat) (options : Options) (tools : Tools)
    (h : Host σ) :
    (endConfigure env k options tools).Ends h
      (TellsAny (Happening.restarted? k call options (env.today.run h.world).result
        (some tools)) h) :=
  applyOptions_tells k call options (some tools) h

theorem readOptions_ends (input : OptionsInput) (h : Host σ) :
    (readOptions input).Ends h fun result v => result = input.read ∧ v = h := by
  unfold readOptions
  split <;> rename_i hinput <;> exact ⟨hinput.symm, rfl⟩

theorem beginConfigure_reads (k : Handle) (input : OptionsInput) (h : Host σ) :
    (beginConfigure k input).Ends h fun result v =>
      v = h ∧ ∀ options, result = .ok options → input.read = .ok options := by
  refine Act.Ends.andThen (readOptions_ends input h) ?_ ?_
  · rintro options v ⟨hinput, rfl⟩
    refine Act.Ends.andThen (look_ends k _ v) ?_ ?_
    · intro _ u hu
      exact ⟨hu.1, fun _ hoptions => hinput ▸ hoptions⟩
    · intro e u hu
      exact ⟨hu.1, nofun⟩
  · rintro e v ⟨-, rfl⟩
    exact ⟨rfl, nofun⟩

def unanswered : Failure ProviderError → Failure HostError
  | .known e => .known (.of .modelCompletionFailed e.message (some (.provider e)))
  | .fault f => .fault f

theorem hear_ends (n : Nat) (request : Request) (h : Host σ) :
    (hear env n request).Ends h fun result v => v.registry = h.registry ∧
      v.world = (((env.provider n).answer request).run h.world).world ∧
      result = match (((env.provider n).answer request).run h.world).result with
        | .ok m => .ok ⟨.assistant, m.content⟩
        | .error e => .error (unanswered e) := by
  refine Act.Ends.bind (p := fun result v => v.registry = h.registry ∧
    v.world = (((env.provider n).answer request).run h.world).world ∧
    result = (((env.provider n).answer request).run h.world).result) ⟨rfl, rfl, rfl⟩ ?_
  rintro result v ⟨hregistry, hworld, hresult⟩
  rw [← hresult]
  rcases result with (e | f) | m
  · exact ⟨hregistry, hworld, rfl⟩
  · exact ⟨hregistry, hworld, rfl⟩
  · exact ⟨hregistry, hworld, rfl⟩

theorem secondReply_tells (r : Round) (request : Request) (h : Host σ) :
    (secondReply env r request).Ends h
      (TellsAny (Operation.Pending.answer env h.world r request) h) := by
  have hhear : (hear env r.provider request).Ends h _ := hear_ends r.provider request h
  revert hhear
  unfold Operation.Pending.answer
  cases (((env.provider r.provider).answer request).run h.world).result with
  | ok m =>
    intro hhear
    refine Act.Ends.andThen hhear ?_ (fun _ _ hv => hv.1)
    rintro reply v ⟨hv, -, hreply⟩
    obtain rfl : reply = ⟨.assistant, m.content⟩ := Except.ok.inj hreply
    refine Act.Ends.andThen (addMessage_tells r.handle _ v) (fun _ u hu => ?_)
      fun _ u hu => hu.congr hv
    exact (hu.congr hv : Tells _ h _ u)
  | error f =>
    intro hhear
    refine Act.Ends.andThen hhear ?_ (fun e _ hv => ⟨hv.1, e, rfl⟩)
    rintro reply v ⟨-, -, he⟩
    cases he

theorem firstReply_tells (r : Round) (h : Host σ) :
    (firstReply env r).Ends h
      (TellsAny (Operation.Pending.answer env h.world r r.snapshot.request) h) :=
  secondReply_tells r r.snapshot.request h

theorem takeOutput_tells (r : Round) (output : String) (h : Host σ) :
    (takeOutput env r output).Ends h (Tells (.said r.handle ⟨.tool, output⟩) h) := by
  refine Act.Ends.andThen (addMessage_tells r.handle ⟨.tool, output⟩ h) ?_ fun _ _ hv => hv
  rintro _ v ⟨s, hs, hv⟩
  -- the session that has just been told is still there to be looked at
  have hthere : v.registry.get? r.handle = some (s.addMessage ⟨.tool, output⟩) := by
    rw [hv]
    exact (Registry.get?_store ..).trans (if_pos rfl)
  have hlook : (look r.handle Session.messages).Ends v fun result u => u = v ∧
      ∃ messages, result = .ok messages := by
    refine (look_ends r.handle Session.messages v).imp fun result u hu => ?_
    rw [hthere] at hu
    exact ⟨hu.1, _, hu.2⟩
  refine Act.Ends.andThen hlook ?_ ?_
  · rintro messages _ ⟨rfl, -⟩
    exact ⟨s, hs, hv⟩
  · rintro e _ ⟨-, messages, he⟩
    cases he

theorem callFromReply_tells (r : Round) (reply : String) (h : Host σ) :
    (callFromReply env r reply).Ends h fun result v =>
      match ((Tool.processText env.validator env.transport (r.snapshot.tools.getD []) reply).run
        h.world).result with
      | .ok (.executed _ output) => Tells (.said r.handle ⟨.tool, output⟩) h result v
      | _ => v.registry = h.registry := by
  have hprocess : (within (Tool.processText env.validator env.transport
      (r.snapshot.tools.getD []) reply)).Ends h
      fun result v => v.registry = h.registry ∧ result =
        ((Tool.processText env.validator env.transport (r.snapshot.tools.getD [])
          reply).run h.world).result :=
    ⟨rfl, rfl⟩
  refine Act.Ends.bind hprocess ?_
  rintro result v ⟨hv, hresult⟩
  rw [← hresult]
  rcases result with f | _ | ⟨name, output⟩ | ⟨name, message⟩
  · exact hv
  · exact hv
  · refine Act.Ends.andThen (takeOutput_tells r output v) ?_ ?_
    · exact fun _ u hu => (hu.congr hv : Tells _ h _ u)
    · exact fun _ u hu => hu.congr hv
  · exact hv

theorem prompt_tells (k : Handle) (text : Input) (h : Host σ) :
    (prompt k text).Ends h fun result v =>
      match text.decode "prompt" with
      | .ok s => Tells (.said k ⟨.user, s⟩) h result v
      | .error _ => v.registry = h.registry := by
  unfold prompt
  cases text.decode "prompt" with
  | error e => exact rfl
  | ok s => exact addMessage_tells k ⟨.user, s⟩ h

theorem keeps_makeProvider (m : Model) : (makeProvider env m).Preserves Host.registry := by
  refine Act.Preserves.bind (fun _ => rfl) fun number => (keeps_within _).bind ?_
  rintro (f | ⟨⟩)
  · exact Act.preserves_pure _
  · exact Act.Preserves.bind (fun _ => rfl) fun _ => Act.preserves_pure _

theorem keeps_beginStart (model : Input) (check : Option (UrlCheck σ)) :
    (beginStart env model check).Preserves Host.registry := by
  unfold beginStart
  split
  · exact Act.preserves_pure _
  · have hclosed := Act.closed_preserves (Host.registry (σ := σ))
    refine Act.Preserves.andThen (closed_chooseModel hclosed env _) fun m => ?_
    have hauthorize : (authorize check m).Preserves Host.registry :=
      closed_authorize hclosed (fun _ _ _ => keeps_within _) m
    refine hauthorize.andThen fun _ => ?_
    exact (keeps_makeProvider m).andThen fun _ => Act.preserves_pure _

theorem keeps_beginRound (k : Handle) : (beginRound env k).Preserves Host.registry :=
  (keeps_look k _).andThen fun _ => Act.Preserves.bind (fun _ => rfl) fun _ =>
    (keeps_within _).bind fun _ => Act.preserves_pure _

theorem onLeases_registry (n : Nat) :
    OnLeases (fun _ a => a.Preserves Host.registry) env n where
  read _ := rfl
  update _ _ := rfl
  shutdown := keeps_within _

theorem keeps_endRound (n : Nat) (result : Except (Failure HostError) String) :
    (endRound env n result).Preserves Host.registry :=
  closed_endRound (Act.closed_preserves _) (onLeases_registry n) result

theorem keeps_endClose (k : Handle) (n : Nat) : (endClose env k n).Preserves Host.registry :=
  closed_endClose (Act.closed_preserves _) (onLeases_registry n) k

theorem keeps_tolerate (k : Handle) (result : Except (Failure HostError) Unit) :
    (tolerate k result).Preserves (Host.registry (σ := σ)) :=
  closed_tolerate (Act.closed_preserves _) k result

theorem endStart_registry (s : Starting) (h : Host σ) :
    (endStart env s).Ends h fun _ v => v.registry = h.registry ∨
      v.registry = (h.registry.insert { modelName := s.name, provider := s.provider }).2 := by
  refine Act.Ends.bind (p := fun _ (v : Host σ) => v.registry = h.registry) rfl ?_
  rintro ((e | f) | ⟨⟩) v hv
  · exact .inl hv
  · exact .inl hv
  · have hregister : (register { modelName := s.name, provider := s.provider }).Ends v fun _ u =>
        u.registry = (h.registry.insert { modelName := s.name, provider := s.provider }).2 := by
      refine (register_ends _ v).imp fun _ u hu => ?_
      rw [hu.1, hv]
    exact Act.Ends.andThen hregister (fun _ _ hu => .inr hu) fun _ _ hu => .inr hu

end Host

/-- A step that fails just when what it comes to is an error, and else tells a session something. -/
theorem Host.Tells.retelling {σ ε α : Type} {e : Happening} {h v : Host σ} {result : Except ε α}
    {q : Operation.Progress} (ht : Host.Tells e h result v) (hq : q.failed = !result.isOk) :
    Retelling h.registry v.registry (q.tells (some e)) := by
  unfold Operation.Progress.tells
  rw [hq]
  cases result with
  | error => exact Retelling.same ht
  | ok =>
    obtain ⟨s, hs, hv⟩ := ht
    rw [hv]
    exact .told e s hs

theorem Retelling.untold {r r' : Registry Session} (h : Retelling r r' [])
    (q : Operation.Progress) : Retelling r r' (q.tells none) :=
  (Operation.Progress.tells_none q).symm ▸ h

namespace Operation

variable {σ : Type} {env : Surroundings σ}

theorem remove_keeps (k : Handle) (r : Registry Session) :
    (r.remove k).2.next = r.next ∧
      ∀ j, (r.remove k).2.get? j = r.get? j ∨ (r.remove k).2.get? j = none := by
  refine ⟨rfl, fun j => ?_⟩
  rw [Registry.get?_remove]
  split_ifs
  · exact .inr rfl
  · exact .inl rfl

theorem closeNext_retelling (ks : List Handle) (h : Host σ) :
    (closeNext ks).Ends h fun _ v => Retelling h.registry v.registry [] := by
  suffices hkept : (closeNext ks).Ends h fun _ v => v.registry.next = h.registry.next ∧
      ∀ j, v.registry.get? j = h.registry.get? j ∨ v.registry.get? j = none from
    hkept.imp fun _ _ hv => .kept _ hv.1 hv.2
  induction ks generalizing h with
  | nil => exact ⟨rfl, fun _ => .inl rfl⟩
  | cons k ks ih =>
    refine Act.Ends.bind (Host.beginClose_ends k h) fun provider v hv => ?_
    obtain ⟨-, rfl⟩ := hv
    obtain ⟨hnext, hcells⟩ := remove_keeps k h.registry
    cases provider with
    | none =>
      refine (ih _).imp fun _ u hu => ⟨hu.1.trans hnext, fun j => ?_⟩
      rcases hu.2 j with hj | hj
      · exact (hcells j).imp hj.trans hj.trans
      · exact .inr hj
    | some n => exact ⟨hnext, hcells⟩

theorem kept_retelling {α : Type} {a : Act (Host σ) α} (ha : a.Preserves Host.registry)
    {f : α → Progress} (h : Host σ) :
    Act.Ends (a >>= fun x => pure (f x)) h fun q v =>
      Retelling h.registry v.registry (q.tells none) := by
  exact Act.Ends.bind (ha.ends h) fun x v hv => Retelling.untold (.same hv) (f x)

theorem told_retelling {a : Act (Host σ) (Except (Failure HostError) Unit)} {h : Host σ}
    {e : Happening} {r : Registry Session} (hr : h.registry = r)
    (ha : a.Ends h (Host.Tells e h)) :
    Act.Ends (a >>= fun x => pure (Progress.done x)) h fun q v =>
      Retelling r v.registry (q.tells (some e)) := by
  refine Act.Ends.bind ha fun result v hv => (Act.ends_pure _ _ _).2 ?_
  rw [← hr]
  exact hv.retelling (by cases result <;> rfl)

theorem restarted_retelling {a : Act (Host σ) (Except (Failure HostError) Unit)} {h : Host σ}
    {e : Option Happening} {r : Registry Session} (hr : h.registry = r)
    (ha : a.Ends h (Host.TellsAny e h)) :
    Act.Ends (a >>= fun x => pure (Progress.done x)) h fun q v =>
      Retelling r v.registry (q.tells e) := by
  cases e with
  | some e => exact told_retelling hr ha
  | none => exact Act.Ends.bind ha fun _ v hv => Retelling.untold (.same (hv.1.trans hr)) _

theorem round_retelling {α : Type} {a : Act (Host σ) (Except (Failure HostError) α)} {h : Host σ}
    {e : Happening} (ha : a.Ends h (Host.Tells e h)) {next : Except (Failure HostError) α → Pending}
    (hnext : ∀ x, (Progress.waits (next x)).failed = !x.isOk) :
    Act.Ends (a >>= fun x => pure (Progress.waits (next x))) h fun q v =>
      Retelling h.registry v.registry (q.tells (some e)) :=
  Act.Ends.bind ha fun result _ hv => hv.retelling (hnext result)

theorem reply_retelling {a : Act (Host σ) (Except (Failure HostError) String)} {h : Host σ}
    {e : Option Happening}
    (ha : a.Ends h (Host.TellsAny e h))
    {next : Except (Failure HostError) String → Pending}
    (hnext : ∀ x, (Progress.waits (next x)).failed = !x.isOk) :
    Act.Ends (a >>= fun x => pure (Progress.waits (next x))) h fun q v =>
      Retelling h.registry v.registry (q.tells e) := by
  cases e with
  | some e => exact round_retelling ha hnext
  | none => exact Act.Ends.bind ha fun _ v hv => Retelling.untold (.same hv.1) _

theorem failed_goOn {α : Type} {r : Round} {next : α → Pending}
    (hnext : ∀ x, (Progress.waits (next x)).failed = false)
    (result : Except (Failure HostError) α) :
    (Progress.waits (goOn r result next)).failed = !result.isOk := by
  cases result with
  | error e => rfl
  | ok x => exact hnext x

/-- The first step of an operation does to the sessions what is told of it. -/
theorem start_retelling (env : Surroundings σ) (op : Operation σ) (call : Nat) (h : Host σ) :
    (op.start env).Ends h fun q v =>
      Retelling h.registry v.registry (q.tells (op.happening env h.world call)) := by
  cases op with
  | setModel model check => exact kept_retelling (Host.keeps_beginStart model check) h
  | getModel k => exact kept_retelling (Host.keeps_look k _) h
  | setOptions k input =>
    refine Act.Ends.bind (Host.beginConfigure_reads k input h) ?_
    rintro (e | options) v ⟨rfl, hinput⟩
    · exact .same rfl
    · simp only [happening, hinput options rfl]
      obtain ⟨message, _ | _ | ⟨endpoint, left⟩, temperature, topP⟩ := options
      · exact restarted_retelling rfl (Host.applyOptions_tells k call _ none v)
      · exact restarted_retelling rfl (Host.applyOptions_tells k call _ none v)
      · exact Retelling.untold (.same rfl) _
  | getOptions k => exact kept_retelling (Host.keeps_look k _) h
  | prompt k text =>
    have hprompt := Host.prompt_tells k text h
    simp only [happening]
    cases hs : text.decode "prompt" with
    | error e =>
      simp only [hs] at hprompt
      exact Act.Ends.bind hprompt fun result v hv => Retelling.untold (.same hv) (.done result)
    | ok s =>
      simp only [hs] at hprompt
      exact told_retelling rfl hprompt
  | readResponse k => exact kept_retelling (Host.keeps_beginRound k) h
  | close k =>
    refine Act.Ends.bind (Host.beginClose_ends k h) fun provider v hv => ?_
    obtain ⟨-, rfl⟩ := hv
    obtain ⟨hnext, hcells⟩ := remove_keeps k h.registry
    cases provider <;> exact Retelling.untold (.kept _ hnext hcells) _
  | closeAll =>
    refine Act.Ends.bind (p := fun _ (v : Host σ) => v = h) rfl ?_
    rintro handles _ rfl
    exact (closeNext_retelling handles _).imp fun q v hv => hv.untold q

/-- Each further step of an operation does to the sessions what is told of it. -/
theorem resume_retelling (env : Surroundings σ) (p : Pending) (call : Nat) (h : Host σ) :
    (resume env p).Ends h fun q v =>
      Retelling h.registry v.registry (q.tells (p.happening env h.world call)) := by
  cases p with
  | starting s =>
    refine Act.Ends.bind (Host.endStart_registry s h) fun result v hv => ?_
    refine Retelling.untold ?_ (.endedWith .handle result)
    rcases hv with hv | hv
    · exact .same hv
    · exact hv ▸ .opened s.name s.provider
  | visiting k options tools endpoint left =>
    refine Act.Ends.bind (a := Host.visitEndpoint env tools endpoint)
      (Host.within_ends (Tool.visit env.transport tools endpoint) h) ?_
    rintro found v ⟨hfound, hworld, hv⟩
    cases left with
    | nil =>
      have hend : (Host.endConfigure env k options found).Ends v _ :=
        Host.endConfigure_tells k call options found v
      rw [hworld, hfound] at hend
      rw [hfound]
      exact restarted_retelling hv hend
    | cons endpoint left => exact Retelling.untold (.same hv) _
  | hearing r =>
    refine reply_retelling (Host.firstReply_tells r h) (failed_goOn fun reply => ?_)
    split <;> rfl
  | scanning r reply =>
    have hcall : (Host.callFromReply env r reply).Ends h _ := Host.callFromReply_tells r reply h
    simp only [Pending.happening]
    revert hcall
    rcases ((Tool.processText env.validator env.transport (r.snapshot.tools.getD [])
      reply).run h.world).result
      with f | _ | ⟨name, output⟩ | ⟨name, message⟩
    · exact fun hcall => Act.Ends.bind hcall fun _ v hv => Retelling.untold (.same hv) _
    · exact fun hcall => Act.Ends.bind hcall fun _ v hv => Retelling.untold (.same hv) _
    · intro hcall
      refine round_retelling hcall (failed_goOn ?_)
      rintro (_ | request) <;> rfl
    · exact fun hcall => Act.Ends.bind hcall fun _ v hv => Retelling.untold (.same hv) _
  | hearingAgain r request =>
    refine reply_retelling (Host.secondReply_tells r request h) ?_
    rintro (e | reply) <;> rfl
  | releasing n result => exact kept_retelling (Host.keeps_endRound n result) h
  | closing k n => exact kept_retelling (Host.keeps_endClose k n) h
  | closingEach k n left =>
    refine Act.Ends.bind ((Host.keeps_endClose k n).ends h) fun result v hv => ?_
    refine Act.Ends.bind ((Host.keeps_tolerate k result).ends v) ?_
    rintro (f | ⟨⟩) u hu
    · exact Retelling.untold (.same (hu.trans hv)) _
    · refine (closeNext_retelling left u).imp fun q t ht => ?_
      rw [← hv, ← hu]
      exact ht.untold q

end Operation

end ChatHost
