import ChatHost.Proofs.Host.Books
import ChatHost.Proofs.Host.Steps
import ChatHost.Proofs.Noted
import ChatHost.Proofs.OrderedMap
import ChatHost.Proofs.Tool.Frame

set_option autoImplicit false

/-!
What the steps of operations do to the books of a host: each step of an operation is a turn.
-/

namespace ChatHost

def Host.Event.isShutdown (n : Nat) : Host.Event → Bool
  | .provider m .shutdown => m = n
  | _ => false

/-- How often providers have been shut down, according to the notes. -/
def Noted.shutdowns {σ : Type} (w : Noted Host.Event σ) (n : Nat) : Nat :=
  w.notes.countP (·.isShutdown n)

def Host.books {σ : Type} (h : Host (Noted Host.Event σ)) : Books where
  bindings k := (h.registry.get? k).map Session.provider
  next := h.registry.next
  leases := h.leaseOf
  made := h.made
  shutdowns := h.world.shutdowns

namespace Operation

variable {σ : Type}

def Pending.stage : Pending → Stage
  | .starting s => .starting s.provider
  | .visiting .. => .idle
  | .hearing r | .scanning r _ | .hearingAgain r _ => .reading r.provider
  | .releasing provider _ => .reading provider
  | .closing handle provider | .closingEach handle provider _ => .closing handle provider

def reader? : Operation σ → Option Handle
  | .readResponse handle => some handle
  | _ => none

theorem reader?_noted (op : Operation σ) : op.noted.reader? = op.reader? := by
  cases op <;> rfl

/-- The entry of an operation that is a round on the given handle, or on none. -/
def Progress.entry (reader : Option Handle) : Progress → Entry
  | .ended _ => {}
  | .waits p => ⟨reader, p.stage⟩

end Operation

namespace Host

variable {σ α : Type} {env : Surroundings σ}

theorem shutdowns_append (w : σ) (notes added : List Host.Event) (n : Nat) :
    (Noted.mk w (notes ++ added)).shutdowns n =
      (Noted.mk w notes).shutdowns n + added.countP (·.isShutdown n) :=
  List.countP_append

/-- A note that is not that of a shutdown. -/
theorem preserves_noting {e : Host.Event} (he : ∀ n, e.isShutdown n = false) (a : Act σ α) :
    (Noted.noting e a).Preserves Noted.shutdowns := by
  intro w
  funext n
  refine (shutdowns_append _ w.notes [e] n).trans ?_
  simp [he, Noted.shutdowns]

theorem preserves_silent (a : Act σ α) :
    (Noted.silent a).Preserves (Noted.shutdowns (σ := σ)) :=
  fun _ => rfl

theorem preserves_transport (endpoint : Text.Letters) :
    env.noted.transport.At (fun _ a => a.Preserves Noted.shutdowns) endpoint where
  connect := preserves_noting (fun _ => rfl) _
  list := preserves_noting (fun _ => rfl) _
  call _ _ := preserves_noting (fun _ => rfl) _
  close := preserves_noting (fun _ => rfl) _

/-- A step in the outside world that shuts no provider down leaves the books as they are. -/
theorem preserves_within {a : Act (Noted Host.Event σ) α} (ha : a.Preserves Noted.shutdowns) :
    (within a).Preserves Host.books := by
  intro h
  have hw := ha h.world
  exact congrArg (fun d => { h.books with shutdowns := d }) hw

theorem preserves_look (k : Handle) (f : Session → α) :
    (look k f).Preserves (Host.books (σ := σ)) :=
  fun _ => rfl

/-- A change of a session that leaves it its provider. -/
theorem preserves_change (k : Handle) {f : Session → Session}
    (hf : ∀ s, (f s).provider = s.provider) : (change k f).Preserves (Host.books (σ := σ)) := by
  intro h
  have hchange := change_ends k f h
  cases hk : h.registry.get? k with
  | none =>
    rw [hk] at hchange
    exact congrArg books hchange.2
  | some s =>
    rw [hk] at hchange
    have hbindings : ∀ j, ((h.registry.store k (f s)).get? j).map Session.provider =
        (h.registry.get? j).map Session.provider := by
      intro j
      rw [Registry.get?_store]
      split_ifs with hj
      · simp [hj, hk, hf]
      · rfl
    refine (congrArg books hchange.2).trans ?_
    exact congrArg (fun b => { h.books with bindings := b }) (funext hbindings)

theorem onSession_books (k : Handle) :
    OnSession (fun _ a => a.Preserves (Host.books (σ := σ))) k :=
  ⟨preserves_look k, preserves_change k⟩

theorem preserves_today : (within env.noted.today).Preserves Host.books :=
  preserves_within (preserves_silent _)

theorem preserves_visitEndpoint (tools : Tools) (endpoint : Text.Letters) :
    (visitEndpoint env.noted tools endpoint).Preserves Host.books :=
  preserves_within (Tool.closed_visit (Act.closed_preserves _)
    (fun endpoint _ => preserves_transport endpoint) tools)

theorem preserves_ask (n : Nat) (request : Request) :
    (ask env.noted n request).Preserves Host.books :=
  preserves_within (preserves_noting (fun _ => rfl) _)

theorem preserves_answer (n : Nat) (request : Request) :
    (within ((env.noted.provider n).answer request)).Preserves Host.books :=
  preserves_within (preserves_silent _)

theorem preserves_callFromReply (r : Round) (reply : String) :
    (callFromReply env.noted r reply).Preserves Host.books := by
  refine closed_callFromReply (Act.closed_preserves _) (onSession_books r.handle)
    (preserves_ask r.provider) (preserves_within ?_)
  exact Tool.closed_processText (Act.closed_preserves _)
    (fun _ tool _ => preserves_transport tool.endpoint) reply

theorem books_setLease (n : Nat) (l : Lease) (h : Host (Noted Host.Event σ)) :
    ((leasePlace n).set l h).books = h.books.setLease n l := by
  refine congrArg (fun leases => { h.books with leases := leases }) (funext fun m => ?_)
  rw [leaseOf, leasePlace, OrderedMap.get?_put]
  by_cases hm : m = n
  · rw [if_pos hm, hm, Function.update_self]
    rfl
  · rw [if_neg hm, Function.update_of_ne hm]
    rfl

theorem shutdowns_shutdown (n : Nat) (w : Noted Host.Event σ) :
    ((env.noted.provider n).shutdown.run w).world.shutdowns =
      Function.update w.shutdowns n (w.shutdowns n + 1) := by
  funext m
  refine (shutdowns_append _ w.notes [.provider n .shutdown] m).trans ?_
  by_cases hm : m = n
  · subst hm
    simp [Event.isShutdown, Noted.shutdowns]
  · simp [Event.isShutdown, Ne.symm hm, Function.update_of_ne hm, Noted.shutdowns]

theorem books_shutdown (n : Nat) (h : Host (Noted Host.Event σ)) :
    ((shutdown env.noted n).run h).world.books = h.books.shutdown n :=
  congrArg (fun d => { h.books with shutdowns := d }) (shutdowns_shutdown n h.world)

theorem books_deferredShutdown (n : Nat) (h : Host (Noted Host.Event σ)) :
    ((Lease.deferredShutdown (shutdown env.noted n)).run h).world.books =
      h.books.shutdown n := by
  refine (congrArg books (Act.world_bind _ _ h)).trans ?_
  refine (Act.observed_bind ?_ h).trans (books_shutdown n h)
  rintro ((e | e) | ⟨⟩)
  · exact (Act.preserves_log _ _ _).bind fun _ => Act.preserves_pure _
  · exact Act.preserves_pure _
  · exact Act.preserves_pure _

theorem books_release (n : Nat) (h : Host (Noted Host.Event σ)) :
    (((leasePlace n).release (shutdown env.noted n)).run h).world.books = h.books.release n := by
  have hset := books_setLease n (h.leaseOf n).release h
  have hlease : ((leasePlace n).set (h.leaseOf n).release h).leaseOf n =
      (h.leaseOf n).release := by
    refine (congrArg (fun b => b.leases n) hset).trans ?_
    exact Function.update_self _ _ _
  change ((if (((leasePlace n).set (h.leaseOf n).release h).leaseOf n).isDue then
    Lease.deferredShutdown (shutdown env.noted n) else pure (.ok ())).run
      ((leasePlace n).set (h.leaseOf n).release h)).world.books =
    if (h.leaseOf n).release.isDue then _ else _
  rw [hlease]
  split
  · rw [books_deferredShutdown, hset]
    rfl
  · exact hset

theorem books_close (n : Nat) (h : Host (Noted Host.Event σ)) :
    (((leasePlace n).close (shutdown env.noted n)).run h).world.books = h.books.close n := by
  have hset := books_setLease n (h.leaseOf n).close h
  change (((h.leaseOf n).closing.carryOut (shutdown env.noted n)).run
      ((leasePlace n).set (h.leaseOf n).close h)).world.books =
    if (h.leaseOf n).closing = .now then _ else _
  cases (h.leaseOf n).closing with
  | already => exact hset
  | deferred count => exact hset
  | now =>
    rw [if_pos rfl]
    refine (Act.observed_bind ?_ _).trans ((books_shutdown n _).trans ?_)
    · rintro (e | ⟨⟩) <;> exact Act.preserves_pure _
    · rw [hset]
      rfl

theorem books_endRound (n : Nat) (result : Except (Failure HostError) String)
    (h : Host (Noted Host.Event σ)) :
    ((endRound env.noted n result).run h).world.books = h.books.release n := by
  refine (Act.observed_bind ?_ h).trans (books_release n h)
  rintro (e | ⟨⟩) <;> exact Act.preserves_pure _

theorem books_endClose (k : Handle) (n : Nat) (h : Host (Noted Host.Event σ)) :
    ((endClose env.noted k n).run h).world.books = h.books.close n := by
  refine (Act.observed_bind ?_ h).trans (books_close n h)
  rintro ((e | e) | stopped)
  · exact (Act.preserves_log _ _ _).bind fun _ => Act.preserves_pure _
  · exact Act.preserves_pure _
  · exact (Act.preserves_log _ _ _).bind fun _ => Act.preserves_pure _

/-- Making a provider. -/
theorem makeProvider_turn (m : Model) (h : Host (Noted Host.Event σ)) :
    (makeProvider env.noted m).Ends h fun r h' =>
      match r with
      | .error _ => h'.books = h.books
      | .ok n => n = h.books.made ∧ h'.books = h.books.make := by
  have hmake : (within (env.noted.make h.made m)).Ends h fun _ h' => h'.books = h.books :=
    preserves_within (preserves_noting (fun _ => rfl) _) h
  refine Act.Ends.bind (p := fun n v => h = v ∧ h.made = n) ⟨rfl, rfl⟩ ?_
  rintro _ _ ⟨rfl, rfl⟩
  refine Act.Ends.bind hmake ?_
  rintro (e | ⟨⟩) h' hbooks
  · exact hbooks
  · exact ⟨rfl, congrArg (fun b => { b with made := h.made + 1 }) hbooks⟩

theorem preserves_authorize {check : Option (UrlCheck (Noted Host.Event σ))}
    (hcheck : ∀ c, check = some c → ∀ parts, (c parts).Preserves Noted.shutdowns) (m : Model) :
    (authorize check m).Preserves (books (σ := σ)) :=
  closed_authorize (Act.closed_preserves _)
    (fun c hc parts => preserves_within (hcheck c hc parts)) m

/-- The first half of a start, with a check that shuts no provider down. -/
theorem beginStart_books (model : Input) {check : Option (UrlCheck (Noted Host.Event σ))}
    (hcheck : ∀ c, check = some c → ∀ parts, (c parts).Preserves Noted.shutdowns)
    (h : Host (Noted Host.Event σ)) :
    (beginStart env.noted model check).Ends h fun r h' =>
      match r with
      | .error _ => h'.books = h.books
      | .ok s => s.provider = h.books.made ∧ h'.books = h.books.make := by
  unfold beginStart
  split
  · exact rfl
  · have hchoose (name : String) : (chooseModel env.noted name).Preserves Host.books :=
      closed_chooseModel (Act.closed_preserves _) _ name
    refine Act.Ends.andThen ((hchoose _).ends h) (fun m v hv => ?_)
      (fun e v hv => hv)
    refine Act.Ends.andThen ((preserves_authorize hcheck m).ends v) (fun _ w hw => ?_)
      (fun e w hw => hw.trans hv)
    refine Act.Ends.andThen (makeProvider_turn m w) ?_ ?_
    · rintro n u ⟨hn, hu⟩
      rw [hw, hv] at hn hu
      exact ⟨hn, hu⟩
    · exact fun e u hu => hu.trans (hw.trans hv)

theorem beginStart_turn (model : Input) (check : Option (UrlCheck σ))
    (h : Host (Noted Host.Event σ)) :
    (beginStart env.noted model (check.map fun check parts =>
      Noted.noting (.checked parts) (check parts))).Ends h fun r h' =>
        match r with
        | .error _ => h'.books = h.books
        | .ok s => s.provider = h.books.made ∧ h'.books = h.books.make := by
  refine beginStart_books model (fun c hc parts => ?_) h
  obtain ⟨c', -, rfl⟩ := Option.map_eq_some_iff.1 hc
  exact preserves_noting (fun _ => rfl) _

/-- A provider that cannot be brought up is shut down, or left as it is. -/
theorem bringUp_shutdowns (n : Nat) (config : ServerConfig) (w : Noted Host.Event σ) :
    (Session.bringUp (env.noted.provider n) config).Ends w fun r w' =>
      match r with
      | .ok () => w'.shutdowns = w.shutdowns
      | .error _ => w'.shutdowns = w.shutdowns ∨
          w'.shutdowns = Function.update w.shutdowns n (w.shutdowns n + 1) := by
  have hstart : ((env.noted.provider n).start config).Preserves Noted.shutdowns :=
    preserves_noting (fun _ => rfl) _
  refine Act.Ends.bind (hstart.ends w) ?_
  rintro ((e | e) | ⟨⟩) v hv
  · have hdown : (env.noted.provider n).shutdown.Ends v fun _ u =>
        u.shutdowns = Function.update w.shutdowns n (w.shutdowns n + 1) :=
      hv ▸ shutdowns_shutdown n v
    refine Act.Ends.bind hdown ?_
    rintro ((e | e) | ⟨⟩) u hu
    · exact Or.inr hu
    · exact Or.inr hu
    · exact Or.inr hu
  · exact Or.inl hv
  · exact hv

theorem bringUp_turn (n : Nat) (config : ServerConfig) (h : Host (Noted Host.Event σ)) :
    (within (Session.bringUp (env.noted.provider n) config)).Ends h fun r h' =>
      match r with
      | .ok () => h'.books = h.books
      | .error _ => h'.books = h.books ∨ h'.books = h.books.shutdown n := by
  refine (Act.ends_zoom _ _ _ _ _).2 ((bringUp_shutdowns n config h.world).imp ?_)
  have hbooks : ∀ (w : Noted Host.Event σ) (d : Nat → Nat), w.shutdowns = d →
      Host.books { h with world := w } = { h.books with shutdowns := d } :=
    fun w d hd => congrArg (fun d => { h.books with shutdowns := d }) hd
  rintro (e | ⟨⟩) w hw
  · exact hw.imp (hbooks w _) (hbooks w _)
  · exact hbooks w _ hw

theorem books_insert (s : Session) (h : Host (Noted Host.Event σ)) :
    Host.books { h with registry := (h.registry.insert s).2 } = h.books.bind s.provider := by
  have hbindings : (fun k => ((h.registry.insert s).2.get? k).map Session.provider) =
      if h.registry.next ≤ Registry.lastHandle then
        Function.update h.books.bindings h.registry.next (some s.provider)
      else h.books.bindings := by
    funext k
    rw [Registry.get?_insert]
    split_ifs with hnext hlast hlast
    · rw [hnext.2, Function.update_self]
      rfl
    · exact absurd hnext.1 hlast
    · rw [Function.update_of_ne fun hk => hnext ⟨hlast, hk⟩]
      rfl
    · rfl
  have hnext := Registry.next_insert h.registry s
  exact congr (congrArg (fun bindings next => { h.books with bindings, next }) hbindings) hnext

theorem endStart_turn (s : Starting) (h : Host (Noted Host.Event σ)) :
    (endStart env.noted s).Ends h fun _ h' =>
      Turn { stage := .starting s.provider } {} h.books h'.books := by
  have hfailed : ∀ v : Host (Noted Host.Event σ),
      v.books = h.books ∨ v.books = h.books.shutdown s.provider →
      Turn { stage := .starting s.provider } {} h.books v.books := by
    rintro v (hv | hv)
    · exact (Turn.drop _ _).of_eq hv
    · exact (Turn.fail _ _).of_eq hv
  refine Act.Ends.bind (bringUp_turn s.provider _ h) ?_
  rintro ((e | e) | ⟨⟩) v hv
  · exact hfailed v hv
  · exact hfailed v hv
  · have hbound : (register { modelName := s.name, provider := s.provider }).Ends v fun _ w =>
        w.books = h.books.bind s.provider := by
      refine (register_ends _ v).imp fun _ w hw => ?_
      rw [hw.1, books_insert, hv]
    exact Act.Ends.andThen hbound (fun _ w hw => (Turn.bind _ _).of_eq hw)
      (fun _ w hw => (Turn.bind _ _).of_eq hw)

theorem beginRound_turn (k : Handle) (h : Host (Noted Host.Event σ)) :
    (beginRound env.noted k).Ends h fun r h' =>
      match r with
      | .error _ => h'.books = h.books
      | .ok r => h.books.bindings k = some r.provider ∧
          h'.books = h.books.acquire r.provider := by
  have hlook : (look k fun s => (s.provider, s.snapshot)).Ends h fun r v => v = h ∧
      ∀ x, r = .ok x → h.books.bindings k = some x.1 := by
    refine (look_result k _ h).imp fun r v hv => ⟨hv.1, fun x hx => ?_⟩
    obtain ⟨s, hs, rfl⟩ := hv.2 x hx
    exact congrArg (Option.map Session.provider) hs
  refine Act.Ends.andThen hlook ?_ ?_
  · rintro ⟨n, snapshot⟩ v ⟨rfl, hn⟩
    exact ⟨hn _ rfl, ((preserves_ask n snapshot.request) _).trans (books_setLease n _ _)⟩
  · rintro e v ⟨rfl, _⟩
    rfl

theorem beginClose_turn (k : Handle) (h : Host (Noted Host.Event σ)) :
    (beginClose k).Ends h fun r h' =>
      match r with
      | none => h'.books = h.books
      | some n => h.books.bindings k = some n ∧ h'.books = h.books.unbind k := by
  have hbooks : Host.books { h with registry := (h.registry.remove k).2 } = h.books.unbind k := by
    refine congrArg (fun b => { h.books with bindings := b }) (funext fun j => ?_)
    simp only [Registry.get?_remove, Function.update_apply, books]
    split_ifs <;> rfl
  refine (beginClose_ends k h).imp fun provider v hv => ?_
  obtain ⟨hprovider, rfl⟩ := hv
  cases provider with
  | some n => exact ⟨hprovider.symm, hbooks⟩
  | none =>
    refine hbooks.trans (congrArg (fun b => { h.books with bindings := b }) ?_)
    exact Function.update_eq_self_iff.2 hprovider

end Host

namespace Operation

variable {σ : Type} {env : Surroundings σ}

theorem closeNext_turn (ks : List Handle) (h : Host (Noted Host.Event σ)) :
    (closeNext ks).Ends h fun p h' => Turn {} (p.entry none) h.books h'.books := by
  induction ks generalizing h with
  | nil => exact .idle _
  | cons k ks ih =>
    refine Act.Ends.bind (Host.beginClose_turn k h) ?_
    rintro (_ | n) v hv
    · rw [← hv]
      exact ih v
    · exact (Turn.unbind k n _ hv.1).of_eq hv.2

/-- A step that leaves the books as they are, at the end of an operation or between two steps of
one that has nothing in its hands. -/
theorem idle_turn {α : Type} {a : Act (Host (Noted Host.Event σ)) α} (ha : a.Preserves Host.books)
    {f : α → Progress} {reader : Option Handle} (hf : ∀ x, (f x).entry reader = {})
    (h : Host (Noted Host.Event σ)) :
    Act.Ends (a >>= fun x => pure (f x)) h fun p h' =>
      Turn {} (p.entry reader) h.books h'.books := by
  refine Act.Ends.bind (ha.ends h) fun x v hv => ?_
  change Turn {} ((f x).entry reader) h.books v.books
  rw [hf]
  exact (Turn.idle _).of_eq hv

/-- A step of a round that does not end it. -/
theorem goOn_turn {α : Type} {a : Act (Host (Noted Host.Event σ)) (Except (Failure HostError) α)}
    (ha : a.Preserves Host.books) (k : Handle) (r : Round) {next : α → Pending}
    (hnext : ∀ x, (next x).stage = .reading r.provider) (h : Host (Noted Host.Event σ)) :
    Act.Ends (a >>= fun x => pure (Progress.waits (goOn r x next))) h fun q h' =>
      Turn ⟨some k, .reading r.provider⟩ (q.entry (some k)) h.books h'.books := by
  refine Act.Ends.bind (ha.ends h) fun x v hv => ?_
  have hstage : (goOn r x next).stage = .reading r.provider := by
    cases x with
    | error e => rfl
    | ok x => exact hnext x
  change Turn _ ⟨some k, (goOn r x next).stage⟩ h.books v.books
  rw [hstage]
  exact (Turn.goOn k _ _).of_eq hv

/-- The first step of an operation is a turn. -/
theorem start_turn (env : Surroundings σ) (op : Operation σ)
    (h : Host (Noted Host.Event σ)) :
    (op.noted.start env.noted).Ends h fun p h' =>
      Turn {} (p.entry op.reader?) h.books h'.books := by
  have hclosed := Act.closed_preserves (Host.books (σ := σ))
  cases op with
  | setModel model check =>
    refine Act.Ends.bind (Host.beginStart_turn model check h) ?_
    rintro (e | s) v hv
    · exact (Turn.idle _).of_eq hv
    · obtain ⟨hn, hv⟩ := hv
      change Turn {} { stage := .starting s.provider } h.books v.books
      rw [hn]
      exact (Turn.make _).of_eq hv
  | getModel k => exact idle_turn (Host.preserves_look k _) (fun _ => rfl) h
  | setOptions k input =>
    have hbegin : (Host.beginConfigure k input).Preserves (Host.books (σ := σ)) :=
      Host.closed_beginConfigure hclosed (Host.onSession_books k) input
    refine Act.Ends.bind (hbegin.ends h) ?_
    rintro (e | options) v hv
    · exact (Turn.idle _).of_eq hv
    · rw [← hv]
      dsimp only
      split
      · exact Turn.idle _
      · exact idle_turn (Host.closed_applyOptions hclosed (Host.onSession_books k)
          Host.preserves_today options none) (fun _ => rfl) v
  | getOptions k => exact idle_turn (Host.preserves_look k _) (fun _ => rfl) h
  | prompt k text =>
    exact idle_turn (Host.closed_prompt hclosed (Host.onSession_books k) text) (fun _ => rfl) h
  | readResponse k =>
    refine Act.Ends.bind (Host.beginRound_turn k h) ?_
    rintro (e | r) v hv
    · exact (Turn.idle _).of_eq hv
    · exact (Turn.acquire k _ _ hv.1).of_eq hv.2
  | close k =>
    refine Act.Ends.bind (Host.beginClose_turn k h) ?_
    rintro (_ | n) v hv
    · exact (Turn.idle _).of_eq hv
    · exact (Turn.unbind k n _ hv.1).of_eq hv.2
  | closeAll => exact closeNext_turn _ h

/-- Each further step of an operation is a turn, when it is a round just while it holds a lease. -/
theorem resume_turn (env : Surroundings σ) (p : Pending) {reader : Option Handle}
    (hreader : reader.isSome ↔ ∃ n, p.stage = .reading n) (h : Host (Noted Host.Event σ)) :
    (resume env.noted p).Ends h fun q h' =>
      Turn ⟨reader, p.stage⟩ (q.entry reader) h.books h'.books := by
  have hclosed := Act.closed_preserves (Host.books (σ := σ))
  cases p with
  | starting s =>
    obtain rfl : reader = none := by simpa [Pending.stage] using hreader
    exact Act.Ends.bind (Host.endStart_turn s h) fun _ _ hv => hv
  | visiting k options tools endpoint left =>
    obtain rfl : reader = none := by simpa [Pending.stage] using hreader
    refine Act.Ends.bind ((Host.preserves_visitEndpoint tools endpoint).ends h) fun tools v hv => ?_
    cases left with
    | nil =>
      rw [← hv]
      exact idle_turn (Host.closed_endConfigure hclosed (Host.onSession_books k)
        Host.preserves_today options tools) (fun _ => rfl) v
    | cons endpoint left => exact (Turn.idle _).of_eq hv
  | hearing r =>
    obtain ⟨k, rfl⟩ := Option.isSome_iff_exists.1 (hreader.2 ⟨_, rfl⟩)
    have hreply : (Host.firstReply env.noted r).Preserves Host.books :=
      Host.closed_firstReply hclosed (Host.onSession_books r.handle) (Host.preserves_answer _ _)
    refine goOn_turn hreply k r (fun reply => ?_) h
    split <;> rfl
  | scanning r reply =>
    obtain ⟨k, rfl⟩ := Option.isSome_iff_exists.1 (hreader.2 ⟨_, rfl⟩)
    refine goOn_turn (Host.preserves_callFromReply r reply) k r ?_ h
    rintro (_ | request) <;> rfl
  | hearingAgain r request =>
    obtain ⟨k, rfl⟩ := Option.isSome_iff_exists.1 (hreader.2 ⟨_, rfl⟩)
    have hreply : (Host.secondReply env.noted r request).Preserves Host.books :=
      Host.closed_secondReply hclosed (Host.onSession_books r.handle) (Host.preserves_answer _ _)
    refine Act.Ends.bind (hreply.ends h) fun _ v hv => ?_
    exact (Turn.goOn k _ _).of_eq hv
  | releasing n result =>
    obtain ⟨k, rfl⟩ := Option.isSome_iff_exists.1 (hreader.2 ⟨_, rfl⟩)
    have hbooks : (Host.endRound env.noted n result).Ends h fun _ v =>
        v.books = h.books.release n := Host.books_endRound n result h
    exact Act.Ends.bind hbooks fun _ v hv => (Turn.release k n _).of_eq hv
  | closing k n =>
    obtain rfl : reader = none := by simpa [Pending.stage] using hreader
    have hbooks : (Host.endClose env.noted k n).Ends h fun _ v =>
        v.books = h.books.close n := Host.books_endClose k n h
    exact Act.Ends.bind hbooks fun _ v hv => (Turn.close k n _).of_eq hv
  | closingEach k n left =>
    obtain rfl : reader = none := by simpa [Pending.stage] using hreader
    have hbooks : (Host.endClose env.noted k n).Ends h fun _ v =>
        v.books = h.books.close n := Host.books_endClose k n h
    refine Act.Ends.bind hbooks fun result v hv => ?_
    have hclose := (Turn.close k n h.books).of_eq hv
    have htolerate : (Host.tolerate k result).Preserves (Host.books (σ := σ)) :=
      Host.closed_tolerate hclosed k result
    refine Act.Ends.bind (htolerate.ends v) ?_
    rintro (f | ⟨⟩) w hw
    · exact hclose.of_eq hw
    · rw [← hw] at hclose
      exact Act.Ends.imp (closeNext_turn left w) fun _ _ hleft => hclose.trans hleft

end Operation

end ChatHost
