import ChatHost.Proofs.Host.Lane

set_option autoImplicit false

/-!
A session on two hosts: among others on the one, by itself on the other, where it is the first to be
started. The same step of the session, taken on both, comes to the same and leaves the session the
same on both, up to the number of its provider and to its handle.
-/

namespace ChatHost

variable {σ γ α β : Type}

/-- The surroundings of a host on which the session with a provider is by itself: whatever provider
is made is this one. -/
def Surroundings.only (env : Surroundings σ) (n : Nat) : Surroundings σ :=
  { env with make := fun _ => env.make n, provider := fun _ => env.provider n }

def Session.alone (s : Session) : Session :=
  { s with provider := 0 }

/-- Whether a failure on the one host is the failure on the other. -/
inductive Failure.Alike (k : Handle) : Failure HostError → Failure HostError → Prop
  | same (e : Failure HostError) : Alike k e e
  | unknown : Alike k (.known (Host.unknownHandle k)) (.known (Host.unknownHandle 1))

/-- Whether two worlds in which notes are taken are the same as a session sees them. -/
def Noted.Twins (view : σ → γ) (n : Nat) (w v : Noted Host.Event σ) : Prop :=
  w.side view n = v.side view 0

/-- Whether the session under a handle, with its provider, is the same on two hosts; and how many
providers have been made on the second, and which handle is next there. -/
structure Host.Twins (view : σ → γ) (n : Nat) (k : Handle) (made next : Nat)
    (h g : Host (Noted Host.Event σ)) : Prop where
  session : (h.registry.get? k).map Session.alone = g.registry.get? 1
  provider : ∀ s, h.registry.get? k = some s → s.provider = n
  lease : h.leaseOf n = g.leaseOf 0
  side : h.world.Twins view n g.world
  made : g.made = made
  next : g.registry.next = next

/-- What belongs to a session on the first host does not depend on anything else there. -/
theorem Host.Twins.lane {view : σ → γ} {n : Nat} {k : Handle} {made next : Nat}
    {h h' g : Host (Noted Host.Event σ)} (ht : h.Twins view n k made next g)
    (hlane : h'.lane view n k = h.lane view n k) : h'.Twins view n k made next g := by
  obtain ⟨hsession, hlease, hside⟩ : h'.registry.get? k = h.registry.get? k ∧
      h'.leaseOf n = h.leaseOf n ∧ h'.world.side view n = h.world.side view n := by
    simpa [Host.lane] using hlane
  exact
    { session := hsession ▸ ht.session
      provider := hsession ▸ ht.provider
      lease := hlease.trans ht.lease
      side := hside.trans ht.side
      made := ht.made
      next := ht.next }

namespace Noted

variable {view : σ → γ} {n : Nat} {e e' : Host.Event} {a : Act σ α}

theorem twins_noting (he : e.asked? n = e'.asked? 0) (ha : a.Sees view) :
    Act.Agree (Twins view n) Eq (noting e a) (noting e' a) := by
  intro w v hw
  have hview : view w.world = view v.world := congrArg Prod.fst hw
  have hasked : w.asked n = v.asked 0 := congrArg Prod.snd hw
  obtain ⟨hresult, hworld⟩ := ha w.world v.world hview
  have hnotes : (w.notes ++ [e]).filterMap (·.asked? n) =
      (v.notes ++ [e']).filterMap (·.asked? 0) := by
    rw [List.filterMap_append, List.filterMap_append]
    refine congr (congrArg _ hasked) ?_
    rw [List.filterMap_cons, List.filterMap_cons, he]
    rfl
  exact ⟨hresult, Prod.ext hworld hnotes⟩

theorem twins_silent (ha : a.Sees view) :
    Act.Agree (Twins view n) Eq (silent (ε := Host.Event) a) (silent a) := by
  intro w v hw
  have hview : view w.world = view v.world := congrArg Prod.fst hw
  have hasked : w.asked n = v.asked 0 := congrArg Prod.snd hw
  obtain ⟨hresult, hworld⟩ := ha w.world v.world hview
  exact ⟨hresult, Prod.ext hworld hasked⟩

end Noted

namespace Surroundings

variable {env : Surroundings σ} {view : σ → γ} {n : Nat}

theorem twins_transport {endpoint : Text.Letters}
    (h : env.transport.At (fun _ a => a.Sees view) endpoint) :
    env.noted.transport.At (fun _ a => Act.Agree (Noted.Twins view n) Eq a a) endpoint where
  connect := Noted.twins_noting rfl h.connect
  list := Noted.twins_noting rfl h.list
  call name arguments := Noted.twins_noting rfl (h.call name arguments)
  close := Noted.twins_noting rfl h.close

theorem asked?_own (n : Nat) (event : Provider.Event) :
    (Host.Event.provider n event).asked? n = some event :=
  if_pos rfl

theorem asked?_twins (n : Nat) (event : Provider.Event) :
    (Host.Event.provider n event).asked? n = (Host.Event.provider 0 event).asked? 0 :=
  (asked?_own n event).trans (asked?_own 0 event).symm

end Surroundings

namespace Host

variable {env : Surroundings σ} {view : σ → γ} {n : Nat} {k : Handle} {made next : Nat}

theorem twins_within {a : Act (Noted Host.Event σ) α} {b : Act (Noted Host.Event σ) β}
    {q : α → β → Prop} (hab : Act.Agree (Noted.Twins view n) q a b) :
    Act.Agree (Twins view n k made next) q (within a) (within b) := by
  intro h g ht
  obtain ⟨hresult, hworld⟩ := hab h.world g.world ht.side
  exact ⟨hresult, ht.session, ht.provider, ht.lease, hworld, ht.made, ht.next⟩

theorem twins_look {f : Session → α} {g' : Session → β} {q : α → β → Prop}
    (hfg : ∀ s, s.provider = n → q (f s) (g' s.alone)) :
    Act.Agree (Twins view n k made next) (Matched (Failure.Alike k) q) (look k f)
      (look 1 g') := by
  intro h g ht
  refine ⟨?_, ht⟩
  have hlook := (look_ends k f h).2
  have hlook' := (look_ends 1 g' g).2
  rw [← ht.session] at hlook'
  cases hs : h.registry.get? k with
  | none =>
    rw [hs] at hlook hlook'
    rw [hlook, hlook']
    exact .error .unknown
  | some s =>
    rw [hs] at hlook hlook'
    rw [hlook, hlook']
    exact .ok (hfg s (ht.provider s hs))

theorem twins_read (f : Session → α) (hf : ∀ s, f s = f s.alone) :
    Act.Agree (Twins view n k made next) (Matched (Failure.Alike k) Eq) (look k f) (look 1 f) :=
  twins_look fun s _ => hf s

theorem twins_change {f : Session → Session} (hf : ∀ s, (f s).alone = f s.alone)
    (hprovider : ∀ s, (f s).provider = s.provider) :
    Act.Agree (Twins view n k made next) (Matched (Failure.Alike k) Eq) (change k f)
      (change 1 f) := by
  intro h g ht
  have hchange := change_ends k f h
  have hchange' := change_ends 1 f g
  unfold Act.Ends at hchange hchange'
  rw [← ht.session] at hchange'
  cases hs : h.registry.get? k with
  | none =>
    rw [hs] at hchange hchange'
    rw [hchange.1, hchange.2, hchange'.1, hchange'.2]
    exact ⟨.error .unknown, ht⟩
  | some s =>
    rw [hs] at hchange hchange'
    rw [hchange.1, hchange.2, hchange'.1, hchange'.2]
    have hget : (h.registry.store k (f s)).get? k = some (f s) :=
      (Registry.get?_store ..).trans (if_pos rfl)
    have hget' : (g.registry.store 1 (f s.alone)).get? 1 = some (f s.alone) :=
      (Registry.get?_store ..).trans (if_pos rfl)
    refine ⟨.ok rfl, ?_, fun s' hs' => ?_, ht.lease, ht.side, ht.made, ht.next⟩
    · show ((h.registry.store k (f s)).get? k).map Session.alone =
        (g.registry.store 1 (f s.alone)).get? 1
      rw [hget, hget']
      exact congrArg some (hf s)
    · obtain rfl := Option.some.inj (hget.symm.trans hs')
      exact (hprovider s).trans (ht.provider s hs)

theorem twins_addMessage (message : Message) :
    Act.Agree (Twins view n k made next) (Matched (Failure.Alike k) Eq) (addMessage k message)
      (addMessage 1 message) :=
  twins_change (fun _ => rfl) fun _ => rfl

theorem twins_prompt (text : Input) :
    Act.Agree (Twins view n k made next) (Matched (Failure.Alike k) Eq) (prompt k text)
      (prompt 1 text) := by
  unfold prompt
  cases text.decode "prompt" with
  | error e => exact Act.agree_pure (.error (.same _))
  | ok s => exact twins_addMessage _

theorem twins_setLease {l : Lease} {h g : Host (Noted Host.Event σ)}
    (ht : h.Twins view n k made next g) :
    ((leasePlace n).set l h).Twins view n k made next ((leasePlace 0).set l g) := by
  have hlease (m : Nat) (h : Host (Noted Host.Event σ)) :
      ((leasePlace m).set l h).leaseOf m = l := by
    rw [leaseOf, leasePlace, OrderedMap.get?_put, if_pos rfl]
    rfl
  exact ⟨ht.session, ht.provider, (hlease n h).trans (hlease 0 g).symm, ht.side, ht.made, ht.next⟩

theorem twins_updateLease (f : Lease → Lease) :
    Act.Agree (Twins view n k made next) Eq
      (Act.modify fun h => (leasePlace n).set (f ((leasePlace n).get h)) h)
      (Act.modify fun g => (leasePlace 0).set (f ((leasePlace 0).get g)) g) := by
  intro h g ht
  have hsame : (leasePlace n).get h = (leasePlace 0).get g := ht.lease
  refine ⟨rfl, ?_⟩
  show ((leasePlace n).set (f ((leasePlace n).get h)) h).Twins view n k made next
    ((leasePlace 0).set (f ((leasePlace 0).get g)) g)
  rw [hsame]
  exact twins_setLease ht

theorem twins_readLease :
    Act.Agree (Twins view n k made next) Eq (Act.read (leasePlace n).get)
      (Act.read (leasePlace 0).get) :=
  fun _ _ ht => ⟨ht.lease, ht⟩

theorem twins_shutdown (hp : env.Apart view n) :
    Act.Agree (Twins view n k made next) Eq (shutdown env.noted n)
      (shutdown (env.only n).noted 0) :=
  twins_within (Noted.twins_noting (Surroundings.asked?_twins n _) hp.provider.shutdown)

theorem twins_release (hp : env.Apart view n) :
    Act.Agree (Twins view n k made next) Eq ((leasePlace n).release (shutdown env.noted n))
      ((leasePlace 0).release (shutdown (env.only n).noted 0)) := by
  refine (twins_updateLease Lease.release).bind fun _ _ _ => ?_
  refine twins_readLease.bind fun lease _ hlease => ?_
  subst hlease
  split
  · refine (Act.agree_log _ _ _ _ _ _).bind fun _ _ _ => ?_
    refine (twins_shutdown hp).bind fun result _ hresult => ?_
    subst hresult
    rcases result with (e | f) | ⟨⟩
    · exact (Act.agree_log _ _ _ _ _ _).bind fun _ _ _ => Act.agree_pure rfl
    · exact Act.agree_pure rfl
    · exact Act.agree_pure rfl
  · exact Act.agree_pure rfl

theorem twins_close (hp : env.Apart view n) :
    Act.Agree (Twins view n k made next) Eq ((leasePlace n).close (shutdown env.noted n))
      ((leasePlace 0).close (shutdown (env.only n).noted 0)) := by
  refine twins_readLease.bind fun lease _ hlease => ?_
  subst hlease
  refine (twins_updateLease Lease.close).bind fun _ _ _ => ?_
  cases lease.closing with
  | already => exact Act.agree_pure rfl
  | deferred count =>
    exact (Act.agree_log _ _ _ _ _ _).bind fun _ _ _ => Act.agree_pure rfl
  | now =>
    refine (twins_shutdown hp).bind fun result _ hresult => ?_
    subst hresult
    cases result <;> exact Act.agree_pure rfl

theorem twins_endRound (hp : env.Apart view n) {result result' : Except (Failure HostError) String}
    (hresult : Matched (Failure.Alike k) Eq result result') :
    Act.Agree (Twins view n k made next) (Matched (Failure.Alike k) Eq)
      (endRound env.noted n result) (endRound (env.only n).noted 0 result') := by
  refine (twins_release hp).bind fun released _ hreleased => ?_
  subst hreleased
  cases released with
  | ok => exact Act.agree_pure hresult
  | error f => exact Act.agree_pure (.error (.same _))

theorem twins_endClose (hp : env.Apart view n) :
    Act.Agree (Twins view n k made next) Eq (endClose env.noted k n)
      (endClose (env.only n).noted 1 0) := by
  refine (twins_close hp).bind fun result _ hresult => ?_
  subst hresult
  rcases result with (e | f) | stopped
  · exact (Act.agree_log _ _ _ _ _ _).bind fun _ _ _ => Act.agree_pure rfl
  · exact Act.agree_pure rfl
  · exact (Act.agree_log _ _ _ _ _ _).bind fun _ _ _ => Act.agree_pure rfl

theorem twins_beginConfigure (input : OptionsInput) :
    Act.Agree (Twins view n k made next) (Matched (Failure.Alike k) Eq) (beginConfigure k input)
      (beginConfigure 1 input) := by
  have hread : Act.Agree (Twins view n k made next) (Matched (Failure.Alike k) Eq)
      (readOptions input) (readOptions input) := by
    unfold readOptions
    split
    · exact Act.agree_pure (.ok rfl)
    · exact Act.agree_pure (.error (.same _))
    · exact (Act.agree_log _ _ _ _ _ _).bind fun _ _ _ => Act.agree_pure (.error (.same _))
  refine hread.andThen fun options _ hoptions => ?_
  subst hoptions
  exact (twins_read (fun _ => ()) fun _ => rfl).andThen fun _ _ _ => Act.agree_pure (.ok rfl)

theorem twins_applyOptions (hp : env.Apart view n) (options : Options) (tools : Option Tools) :
    Act.Agree (Twins view n k made next) (Matched (Failure.Alike k) Eq)
      (applyOptions env.noted k options tools)
      (applyOptions (env.only n).noted 1 options tools) := by
  have hday : Act.Agree (Twins view n k made next) Eq (within env.noted.today)
      (within (env.only n).noted.today) := twins_within (Noted.twins_silent hp.day)
  refine hday.bind fun day _ hsame => ?_
  subst hsame
  split
  · exact Act.agree_pure (.error (.same _))
  · refine (Act.agree_write _ _).bind fun _ _ _ => ?_
    refine (twins_read Session.modelName fun _ => rfl).andThen fun name _ hname => ?_
    subst hname
    exact (Act.agree_write _ _).bind fun _ _ _ => twins_change (fun _ => rfl) fun _ => rfl

theorem twins_endConfigure (hp : env.Apart view n) (options : Options) (tools : Tools) :
    Act.Agree (Twins view n k made next) (Matched (Failure.Alike k) Eq)
      (endConfigure env.noted k options tools)
      (endConfigure (env.only n).noted 1 options tools) := by
  refine (Act.agree_write _ _).bind fun _ _ _ => ?_
  exact (Act.agree_log _ _ _ _ _ _).bind fun _ _ _ => twins_applyOptions hp options _

theorem twins_visitEndpoint {tools : Tools} {endpoint : Text.Letters}
    (ht : ∀ e, Tool.endpoint? endpoint = some e →
      env.transport.At (fun _ a => a.Sees view) e) :
    Act.Agree (Twins view n k made next) Eq (visitEndpoint env.noted tools endpoint)
      (visitEndpoint (env.only n).noted tools endpoint) :=
  twins_within (Tool.closed_visit (Act.closed_agree _)
    (fun e he => Surroundings.twins_transport (ht e he)) tools)

theorem twins_ask (hp : env.Apart view n) (request : Request) :
    Act.Agree (Twins view n k made next) Eq (ask env.noted n request)
      (ask (env.only n).noted 0 request) :=
  twins_within (Noted.twins_noting (Surroundings.asked?_twins n _) (hp.provider.ask request))

theorem twins_hear (hp : env.Apart view n) (request : Request) :
    Act.Agree (Twins view n k made next) (Matched (Failure.Alike k) Eq)
      (hear env.noted n request) (hear (env.only n).noted 0 request) := by
  have hanswer : Act.Agree (Twins view n k made next) Eq
      (within ((env.noted.provider n).answer request))
      (within (((env.only n).noted.provider 0).answer request)) :=
    twins_within (Noted.twins_silent (hp.provider.answer request))
  refine hanswer.bind fun result _ hresult => ?_
  subst hresult
  rcases result with (e | f) | message
  · exact (Act.agree_log _ _ _ _ _ _).bind fun _ _ _ => Act.agree_pure (.error (.same _))
  · exact Act.agree_pure (.error (.same _))
  · exact Act.agree_pure (.ok rfl)

/-- A round on the session: the same on both hosts up to the names. -/
inductive RoundAlike (n : Nat) (k : Handle) : Round → Round → Prop
  | round (snapshot : Snapshot) : RoundAlike n k ⟨k, n, snapshot⟩ ⟨1, 0, snapshot⟩

theorem twins_beginRound (hp : env.Apart view n) :
    Act.Agree (Twins view n k made next) (Matched (Failure.Alike k) (RoundAlike n k))
      (beginRound env.noted k) (beginRound (env.only n).noted 1) := by
  have hlook : Act.Agree (Twins view n k made next)
      (Matched (Failure.Alike k) fun x y => x = (n, y.2) ∧ y = (0, y.2))
      (look k fun s => (s.provider, s.snapshot)) (look 1 fun s => (s.provider, s.snapshot)) :=
    twins_look fun s hs => ⟨Prod.ext hs rfl, rfl⟩
  refine hlook.andThen ?_
  rintro ⟨m, snapshot⟩ ⟨m', snapshot'⟩ ⟨hx, hy⟩
  cases hx
  cases hy
  refine (twins_updateLease Lease.acquire).bind fun _ _ _ => ?_
  exact (twins_ask hp _).bind fun _ _ _ => Act.agree_pure (.ok (.round _))

theorem twins_secondReply (hp : env.Apart view n) (snapshot : Snapshot) (request : Request) :
    Act.Agree (Twins view n k made next) (Matched (Failure.Alike k) Eq)
      (secondReply env.noted ⟨k, n, snapshot⟩ request)
      (secondReply (env.only n).noted ⟨1, 0, snapshot⟩ request) := by
  refine (twins_hear hp request).andThen fun reply _ hreply => ?_
  subst hreply
  exact (twins_addMessage _).andThen fun _ _ _ => Act.agree_pure (.ok rfl)

theorem twins_firstReply (hp : env.Apart view n) (snapshot : Snapshot) :
    Act.Agree (Twins view n k made next) (Matched (Failure.Alike k) Eq)
      (firstReply env.noted ⟨k, n, snapshot⟩)
      (firstReply (env.only n).noted ⟨1, 0, snapshot⟩) :=
  twins_secondReply hp snapshot snapshot.request

theorem twins_takeOutput (hp : env.Apart view n) (snapshot : Snapshot) (output : String) :
    Act.Agree (Twins view n k made next) (Matched (Failure.Alike k) Eq)
      (takeOutput env.noted ⟨k, n, snapshot⟩ output)
      (takeOutput (env.only n).noted ⟨1, 0, snapshot⟩ output) := by
  refine (twins_addMessage _).andThen fun _ _ _ => ?_
  refine (twins_read Session.messages fun _ => rfl).andThen fun messages _ hmessages => ?_
  subst hmessages
  exact (twins_ask hp _).bind fun _ _ _ => Act.agree_pure (.ok rfl)

theorem twins_callFromReply (hp : env.Apart view n) (snapshot : Snapshot)
    (ht : Tool.Within (env.transport.At fun _ a => a.Sees view) (snapshot.tools.getD []))
    (reply : String) :
    Act.Agree (Twins view n k made next) (Matched (Failure.Alike k) Eq)
      (callFromReply env.noted ⟨k, n, snapshot⟩ reply)
      (callFromReply (env.only n).noted ⟨1, 0, snapshot⟩ reply) := by
  have hprocess : Act.Agree (Twins view n k made next) Eq
      (within (Tool.processText env.validator env.noted.transport (snapshot.tools.getD []) reply))
      (within (Tool.processText env.validator (env.only n).noted.transport
        (snapshot.tools.getD []) reply)) :=
    twins_within (Tool.closed_processText (Act.closed_agree _)
      (fun name tool htool => Surroundings.twins_transport (ht name tool htool)) reply)
  refine hprocess.bind fun result _ hresult => ?_
  subst hresult
  rcases result with f | _ | ⟨name, output⟩ | ⟨name, message⟩
  · exact Act.agree_pure (.error (.same _))
  · exact (Act.agree_log _ _ _ _ _ _).bind fun _ _ _ => Act.agree_pure (.ok rfl)
  · refine (twins_takeOutput hp snapshot output).andThen fun request _ hrequest => ?_
    subst hrequest
    exact Act.agree_pure (.ok rfl)
  · exact (Act.agree_log _ _ _ _ _ _).bind fun _ _ _ => Act.agree_pure (.error (.same _))

theorem twins_remove {h g : Host (Noted Host.Event σ)} (ht : h.Twins view n k made next g) :
    Twins view n k made next { h with registry := (h.registry.remove k).2 }
      { g with registry := (g.registry.remove 1).2 } := by
  have hget (j : Handle) (h : Host (Noted Host.Event σ)) :
      (h.registry.remove j).2.get? j = none :=
    (Registry.get?_remove ..).trans (if_pos rfl)
  refine ⟨?_, fun s hs => ?_, ht.lease, ht.side, ht.made, ht.next⟩
  · show ((h.registry.remove k).2.get? k).map Session.alone = (g.registry.remove 1).2.get? 1
    rw [hget, hget]
    rfl
  · exact absurd ((hget k h).symm.trans hs) nofun

theorem twins_beginClose :
    Act.Agree (Twins view n k made next) (Option.Rel fun x y => x = n ∧ y = 0) (beginClose k)
      (beginClose 1) := by
  intro h g ht
  obtain ⟨hresult, hworld⟩ := beginClose_ends k h
  obtain ⟨hresult', hworld'⟩ := beginClose_ends 1 g
  rw [hresult, hworld, hresult', hworld', ← ht.session]
  refine ⟨?_, twins_remove ht⟩
  cases hs : h.registry.get? k with
  | none => exact .none
  | some s => exact .some ⟨ht.provider s hs, rfl⟩

theorem makeProvider_ends (env : Surroundings σ) (model : Model) (h : Host σ) :
    (makeProvider env model).Ends h fun result v =>
      (within (env.make h.made model)).Ends h fun answer u =>
        result = (answer.mapError .fault).map (fun _ => h.made) ∧
          (answer = .ok () → v = { u with made := h.made + 1 }) := by
  refine Act.Ends.bind (p := fun number v => number = h.made ∧ v = h) ⟨rfl, rfl⟩ ?_
  rintro number v ⟨rfl, rfl⟩
  refine Act.Ends.bind (p := fun answer u =>
    answer = ((within (env.make v.made model)).run v).result ∧
      u = ((within (env.make v.made model)).run v).world) ⟨rfl, rfl⟩ ?_
  rintro answer u ⟨hanswer, hworld⟩
  unfold Act.Ends
  rw [← hanswer, ← hworld]
  cases answer with
  | error f => exact ⟨rfl, nofun⟩
  | ok => exact ⟨rfl, fun _ => rfl⟩

theorem twins_makeProvider (hp : env.Apart view n) (model : Model)
    {h g : Host (Noted Host.Event σ)} (ht : h.Twins view n k 0 next g) (hmade : h.made = n) :
    (makeProvider env.noted model).Ends h fun result v =>
      (makeProvider (env.only n).noted model).Ends g fun result' v' =>
        ∀ m, result = .ok m → m = n ∧ result' = .ok 0 ∧ v.Twins view n k 1 next v' := by
  intro m hm
  obtain ⟨hresult, hworld⟩ := makeProvider_ends env.noted model h
  obtain ⟨hresult', hworld'⟩ := makeProvider_ends (env.only n).noted model g
  rw [hmade] at hresult hworld
  rw [ht.made] at hresult' hworld'
  have hmake : Act.Agree (Twins view n k 0 next) Eq (within (env.noted.make n model))
      (within ((env.only n).noted.make 0 model)) :=
    twins_within (Noted.twins_noting rfl (hp.make model))
  obtain ⟨hsame, hafter⟩ := hmake h g ht
  cases hanswer : ((within (env.noted.make n model)).run h).result with
  | error f =>
    rw [hanswer] at hresult
    exact absurd (hm.symm.trans hresult) nofun
  | ok =>
    rw [hanswer] at hresult hsame
    rw [← hsame] at hresult'
    refine ⟨Except.ok.inj (hm.symm.trans hresult), hresult', ?_⟩
    rw [hworld hanswer, hworld' hsame.symm]
    exact ⟨hafter.session, hafter.provider, hafter.lease, hafter.side, rfl, hafter.next⟩

theorem twins_beginStart (hp : env.Apart view n) (model : Input) {check : Option (UrlCheck σ)}
    (hcheck : ∀ c, check = some c → ∀ parts, (c parts).Sees view)
    {h g : Host (Noted Host.Event σ)} (ht : h.Twins view n k 0 next g) (hmade : h.made = n) :
    (beginStart env.noted model (noteChecks check)).Ends h fun result v =>
      (beginStart (env.only n).noted model (noteChecks check)).Ends g fun result' v' =>
        ∀ s, result = .ok s →
          s.provider = n ∧ result' = .ok ⟨s.name, 0⟩ ∧ v.Twins view n k 1 next v' := by
  have hclosed := Act.closed_agree (Twins view n k 0 next)
  have hchoose (name : String) : Act.Agree (Twins view n k 0 next) (Matched (Failure.Alike k) Eq)
      (chooseModel env.noted name) (chooseModel (env.only n).noted name) :=
    Act.Agree.imp (closed_chooseModel hclosed _ name) fun _ _ => .of_eq .same
  have hauthorize (chosen : Model) : Act.Agree (Twins view n k 0 next)
      (Matched (Failure.Alike k) Eq) (authorize (noteChecks check) chosen)
      (authorize (noteChecks check) chosen) := by
    refine Act.Agree.imp (closed_authorize hclosed (fun c hc parts => ?_) chosen) fun _ _ =>
      .of_eq .same
    obtain ⟨c', hc', rfl⟩ := Option.map_eq_some_iff.1 hc
    exact twins_within (Noted.twins_noting rfl (hcheck c' hc' parts))
  have hmadeChoose (name : String) : (chooseModel env.noted name).Preserves Host.made :=
    closed_chooseModel (Act.closed_preserves _) _ name
  have hmadeAuthorize (chosen : Model) :
      (authorize (noteChecks check) chosen).Preserves Host.made :=
    closed_authorize (Act.closed_preserves _) (fun _ _ _ _ => rfl) chosen
  unfold beginStart
  cases model.decode "model name" with
  | error e => exact nofun
  | ok name =>
    -- up to the making of the provider, as many have been made as before
    refine Act.Agree.andThen_ends ((hchoose name).keeping (hmadeChoose name) n) ⟨ht, hmade⟩ ?_
      fun _ _ _ _ => nofun
    intro chosen _ v v' hsame hv
    subst hsame
    refine Act.Agree.andThen_ends ((hauthorize chosen).keeping (hmadeAuthorize chosen) n) hv ?_
      fun _ _ _ _ => nofun
    intro _ _ u u' _ hu
    refine Act.Ends.andThen (twins_makeProvider hp chosen hu.1 hu.2) (fun m t hm => ?_)
      fun _ _ _ => nofun
    intro s hs
    obtain rfl : ⟨name, m⟩ = s := Except.ok.inj hs
    obtain ⟨hnumber, hresult, htwins⟩ := hm m rfl
    refine Act.ends_andThen_of_ok (p := fun (result' : Except (Failure HostError) Starting) v' =>
      m = n ∧ result' = .ok ⟨name, 0⟩ ∧ t.Twins view n k 1 next v') hresult ?_
    exact ⟨hnumber, rfl, htwins⟩

theorem twins_bringUp (hp : env.Apart view n) (config : ServerConfig) :
    Act.Agree (Noted.Twins view n) Eq (Session.bringUp (env.noted.provider n) config)
      (Session.bringUp ((env.only n).noted.provider 0) config) := by
  have hstart := Noted.twins_noting (Surroundings.asked?_twins n (.start config))
    (hp.provider.start config)
  refine hstart.bind fun started _ hstarted => ?_
  subst hstarted
  rcases started with (e | f) | ⟨⟩
  · have hshutdown := Noted.twins_noting (Surroundings.asked?_twins n .shutdown)
      hp.provider.shutdown
    refine hshutdown.bind fun down _ hdown => ?_
    subst hdown
    rcases down with (e | f) | ⟨⟩
    · exact (Act.agree_log _ _ _ _ _ _).bind fun _ _ _ => Act.agree_pure rfl
    · exact Act.agree_pure rfl
    · exact Act.agree_pure rfl
  · exact Act.agree_pure rfl
  · exact Act.agree_pure rfl

theorem twins_register (name : String) {h g : Host (Noted Host.Event σ)}
    (ht : h.Twins view n k 1 1 g) :
    (register { modelName := name, provider := n }).Ends h fun result v =>
      (register { modelName := name, provider := 0 }).Ends g fun result' v' =>
        result = .ok k → result' = .ok 1 ∧ v.Twins view n k 1 2 v' := by
  intro hresult
  obtain ⟨hworld, hok⟩ := register_ends { modelName := name, provider := n } h
  obtain ⟨hworld', hok'⟩ := register_ends { modelName := name, provider := 0 } g
  rw [ht.next, if_pos (by decide)] at hok'
  rw [hresult] at hok
  split_ifs at hok with hlast
  have hk : k = (h.registry.next : Handle) := Except.ok.inj hok
  have hget (s : Session) : (h.registry.insert s).2.get? k = some s :=
    (Registry.get?_insert ..).trans (if_pos ⟨hlast, hk⟩)
  have hget' (s : Session) : (g.registry.insert s).2.get? 1 = some s := by
    rw [Registry.get?_insert, ht.next]
    exact if_pos ⟨by decide, rfl⟩
  refine ⟨hok', ?_⟩
  rw [hworld, hworld']
  refine ⟨?_, fun s hs => ?_, ht.lease, ht.side, ht.made, ?_⟩
  · exact (congrArg _ (hget _)).trans (hget' _).symm
  · obtain rfl := Option.some.inj ((hget _).symm.trans hs)
    rfl
  · exact (Registry.next_insert ..).trans (congrArg (· + 1) ht.next)

theorem twins_endStart (hp : env.Apart view n) (name : String) {h g : Host (Noted Host.Event σ)}
    (ht : h.Twins view n k 1 1 g) :
    (endStart env.noted ⟨name, n⟩).Ends h fun result v =>
      (endStart (env.only n).noted ⟨name, 0⟩).Ends g fun result' v' =>
        result = .ok k → result' = .ok 1 ∧ v.Twins view n k 1 2 v' := by
  have hup : Act.Agree (Twins view n k 1 1) Eq
      (within (Session.bringUp (env.noted.provider n) env.noted.config))
      (within (Session.bringUp ((env.only n).noted.provider 0) (env.only n).noted.config)) :=
    twins_within (twins_bringUp hp env.config)
  refine Act.Agree.bind_ends hup ht fun started _ v v' hsame hv => ?_
  subst hsame
  rcases started with (e | f) | ⟨⟩
  · exact nofun
  · exact nofun
  · refine Act.Ends.andThen (twins_register name hv) (fun j u hu => ?_) fun _ _ _ => nofun
    intro hj
    have hregistered : (.ok j : Except (Failure HostError) Handle) = .ok k := hj
    obtain ⟨hresult, htwins⟩ := hu hregistered
    refine Act.ends_andThen_of_ok (p := fun (result' : Except (Failure HostError) Handle) v' =>
      result' = .ok 1 ∧ u.Twins view n k 1 2 v') hresult ?_
    exact ⟨rfl, htwins⟩

end Host

end ChatHost
