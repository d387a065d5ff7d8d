import ChatHost.Proofs.Host.Traffic
import ChatHost.Proofs.Host.Turns
import ChatHost.Scripted.Host
import Mathlib.Data.List.Perm.Basic

set_option autoImplicit false

/-!
Leases in the traffic on a host. However calls go on together, the leases on a session's provider
are those of the rounds that are under way, and the provider is shut down once, when the session has
been closed and the last of these rounds has ended.
-/

namespace ChatHost

variable {σ : Type}

/-- What a call that goes on at the same time as others has in its hands. -/
def Call.entry (c : Call σ) : Entry :=
  c.progress.entry c.operation.reader?

/-- Whether a call is a round on a handle, and has begun it and not ended it. -/
def Call.isRoundOn (k : Handle) : Call σ → Bool
  | ⟨.readResponse j, .waits _⟩ => j = k
  | _ => false

/-- Whether a call has taken a session from under a handle and has not closed its provider. -/
def Call.isClosing (k : Handle) : Call σ → Bool
  | ⟨_, .waits (.closing j _)⟩ | ⟨_, .waits (.closingEach j _ _)⟩ => j = k
  | _ => false

def Move.noted : Move σ → Move (Noted Host.Event σ)
  | .ask operation => .ask operation.noted
  | .resume number => .resume number
  | .outside change => .outside fun w => { w with world := change w.world }

namespace Traffic

/-- What some moves lead to on a fresh host, with notes of what has been asked of the outside. -/
def observed (env : Surroundings σ) (w : σ) (moves : List (Move σ)) :
    Traffic (Noted Host.Event σ) :=
  run env.noted { host := { world := ⟨w, []⟩ } } (moves.map Move.noted)

/-- The rounds on a handle that have begun and not ended. -/
def rounds (t : Traffic σ) (k : Handle) : Nat :=
  t.calls.countP (·.isRoundOn k)

/-- Whether a session has been taken from under a handle and its provider has been closed, if there
ever was one. -/
def Closed (t : Traffic σ) (k : Handle) : Prop :=
  t.host.registry.get? k = none ∧ ∀ c ∈ t.calls, c.isClosing k = false

def shutdowns (t : Traffic (Noted Host.Event σ)) (n : Nat) : Nat :=
  t.host.world.shutdowns n

def Booked (phase : Nat → Phase) (t : Traffic (Noted Host.Event σ)) : Prop :=
  Ledger phase t.host.books (t.calls.map Call.entry)

theorem booked_fresh (w : σ) :
    Booked (fun _ => .unmade) ({ host := { world := ⟨w, []⟩ } } : Traffic _) where
  fits n := rfl
  made n := by simp [Host.books]
  bindings k n := by simp [Host.books, Registry.get?, OrderedMap.get?]
  issued k n hk := by simp [Phase.handle?] at hk
  distinct k m n hk := by simp [Phase.handle?] at hk
  closers e he := by simp at he
  readers e he := by simp at he

variable {phase : Nat → Phase} {t : Traffic (Noted Host.Event σ)}

/-- A call that waits is a round just when it holds a lease. -/
theorem Booked.reader (h : Booked phase t) {op : Operation (Noted Host.Event σ)}
    {p : Operation.Pending} (hc : ⟨op, .waits p⟩ ∈ t.calls) :
    op.reader?.isSome ↔ ∃ n, p.stage = .reading n := by
  have he : (⟨op.reader?, p.stage⟩ : Entry) ∈ t.calls.map Call.entry :=
    List.mem_map.2 ⟨_, hc, rfl⟩
  constructor
  · intro hsome
    obtain ⟨k, hk⟩ := Option.isSome_iff_exists.1 hsome
    obtain ⟨n, hn, _⟩ := (h.readers _ he k).1 hk
    exact ⟨n, hn⟩
  · rintro ⟨n, hn⟩
    obtain ⟨k, hk⟩ := h.handle_of_reading he hn
    exact Option.isSome_iff_exists.2 ⟨k, (h.readers _ he k).2 ⟨n, hn, hk⟩⟩

/-- Every move keeps the books in order. -/
theorem Booked.step (h : Booked phase t) (env : Surroundings σ) (m : Move σ) :
    ∃ phase', Keeps phase phase' ∧ Booked phase' (t.step env.noted m.noted) := by
  cases m with
  | ask op =>
    have hturn := op.start_turn env t.host
    rw [← op.reader?_noted] at hturn
    obtain ⟨phase', hkeeps, h'⟩ := h.idle.turn hturn
    refine ⟨phase', hkeeps, h'.perm ?_⟩
    have hlast := List.perm_append_singleton
      (Call.mk op.noted ((op.noted.start env.noted).run t.host).result) t.calls
    exact (hlast.map Call.entry).symm
  | resume number =>
    cases hc : t.calls[number]? with
    | none => exact ⟨phase, fun _ _ hk => hk, by rwa [Move.noted, step_resume_none hc]⟩
    | some c =>
      obtain ⟨op, result | p⟩ := c
      · exact ⟨phase, fun _ _ hk => hk, by rwa [Move.noted, step_resume_ended hc]⟩
      · obtain ⟨hlt, hget⟩ := List.getElem?_eq_some_iff.1 hc
        have hturn := Operation.resume_turn env p
          (h.reader (hget ▸ List.getElem_mem hlt)) t.host
        -- the call is moved to the front, takes its turn there, and is moved back
        have hfront := (List.getElem_cons_eraseIdx_perm hlt).symm.map Call.entry
        rw [hget] at hfront
        obtain ⟨phase', hkeeps, h'⟩ := (Ledger.perm h hfront).turn hturn
        have hback := List.set_perm_cons_eraseIdx hlt
          (Call.mk op ((Operation.resume env.noted p).run t.host).result)
        refine ⟨phase', hkeeps, ?_⟩
        rw [Move.noted, step_resume_waits hc]
        exact h'.perm (hback.map Call.entry).symm
  | outside change => exact ⟨phase, fun _ _ hk => hk, h⟩

theorem Booked.run (h : Booked phase t) (env : Surroundings σ) (moves : List (Move σ)) :
    ∃ phase', Keeps phase phase' ∧ Booked phase' (t.run env.noted (moves.map Move.noted)) := by
  induction moves generalizing phase t with
  | nil => exact ⟨phase, fun _ _ hk => hk, h⟩
  | cons m moves ih =>
    obtain ⟨phase₁, hkeeps₁, h₁⟩ := h.step env m
    obtain ⟨phase₂, hkeeps₂, h₂⟩ := ih h₁
    exact ⟨phase₂, fun n k hk => hkeeps₂ n k (hkeeps₁ n k hk), h₂⟩

/-- The rounds on a handle are the leases on the provider that was put under it. -/
theorem Booked.rounds (h : Booked phase t) {k : Handle} {n : Nat}
    (hk : (phase n).handle? = some k) :
    t.rounds k = (standing t.host.books (t.calls.map Call.entry) n).reading := by
  refine Eq.trans (List.countP_congr fun c hc => ?_) List.countP_map.symm
  have hreaders := h.readers c.entry (List.mem_map_of_mem hc) k
  have hround : c.isRoundOn k ↔ c.entry.reader = some k := by
    obtain ⟨op, result | p⟩ := c
    · cases op <;> simp [Call.isRoundOn, Call.entry, Operation.Progress.entry]
    · cases op <;> simp [Call.isRoundOn, Call.entry, Operation.Progress.entry, Operation.reader?]
  rw [hround, hreaders]
  simp only [Function.comp_apply, decide_eq_true_eq]
  constructor
  · rintro ⟨m, hm, hkm⟩
    rwa [h.distinct k n m hk hkm]
  · exact fun hn => ⟨n, hn, hk⟩

theorem isClosing_of_stage {c : Call σ} {k : Handle} {n : Nat} (h : c.entry.stage = .closing k n) :
    c.isClosing k = true := by
  obtain ⟨op, result | p⟩ := c
  · cases h
  · cases p <;> cases h <;> simp [Call.isClosing]

/-- While a provider is to be closed, there is a call that is to close it. -/
theorem Booked.exists_closing (h : Booked phase t) {k : Handle} {n : Nat}
    (hp : phase n = .closing k) : ∃ c ∈ t.calls, c.isClosing k = true := by
  have hfit := h.fits n
  rw [hp] at hfit
  have hone : (standing t.host.books (t.calls.map Call.entry) n).closing = 1 :=
    congrArg Standing.closing hfit
  obtain ⟨e, he, hcloses⟩ := List.countP_pos_iff.1 (Nat.lt_of_lt_of_eq Nat.one_pos hone.symm)
  obtain ⟨c, hc, rfl⟩ := List.mem_map.1 he
  have hstage : ∃ i, c.entry.stage = .closing i n := by
    cases hs : c.entry.stage <;> simp [hs, Stage.closes] at hcloses
    exact ⟨_, by rw [hcloses]⟩
  obtain ⟨i, hi⟩ := hstage
  obtain rfl : k = i := Phase.closing.inj (hp.symm.trans (h.closers c.entry he i n hi))
  exact ⟨c, hc, isClosing_of_stage hi⟩

/-- What has been put under a handle that is closed by now is closed. -/
theorem Booked.closed (h : Booked phase t) {k : Handle} {n : Nat}
    (hk : (phase n).handle? = some k) (hclosed : t.Closed k) : phase n = .closed k := by
  obtain ⟨hnone, hcalls⟩ := hclosed
  cases hp : phase n with
  | unmade | starting | given => simp [hp, Phase.handle?] at hk
  | bound j =>
    obtain rfl : j = k := by simpa [hp, Phase.handle?] using hk
    have hbinding := (h.bindings j n).2 hp
    simp [Host.books, hnone] at hbinding
  | closing j =>
    obtain rfl : j = k := by simpa [hp, Phase.handle?] using hk
    obtain ⟨c, hc, hcloses⟩ := h.exists_closing hp
    exact absurd (hcalls c hc) (by simp [hcloses])
  | closed j =>
    obtain rfl : j = k := by simpa [hp, Phase.handle?] using hk
    rfl

/-- In every state that the traffic on a host comes to, from any time on at which a session is
registered: the leases on its provider are its rounds that are under way, the provider has been shut
down at most once and never with a round under way, and exactly once when the handle has been closed
and every round on it has ended. -/
theorem leases_of_registered (env : Surroundings σ) (w : σ) (before after : List (Move σ))
    {k : Handle} {s : Session}
    (hs : (observed env w before).host.registry.get? k = some s) :
    let t := observed env w (before ++ after)
    (t.host.leaseOf s.provider).count = t.rounds k ∧ t.shutdowns s.provider ≤ 1 ∧
      (0 < t.rounds k → t.shutdowns s.provider = 0) ∧
      (t.Closed k → t.rounds k = 0 → t.shutdowns s.provider = 1) := by
  intro t
  have ht : t = (observed env w before).run env.noted (after.map Move.noted) := by
    simp only [t, observed, List.map_append, run_append]
  obtain ⟨phase₁, -, h₁⟩ := (booked_fresh w).run env before
  obtain ⟨phase, hkeeps, h⟩ : ∃ phase, Keeps phase₁ phase ∧ Booked phase t := by
    rw [ht]
    exact h₁.run env after
  have hbound : phase₁ s.provider = .bound k :=
    (h₁.bindings k s.provider).1 (congrArg (Option.map Session.provider) hs)
  have hk : (phase s.provider).handle? = some k := hkeeps _ _ (by rw [hbound]; rfl)
  have hrounds := h.rounds hk
  have hfit := h.fits s.provider
  have hclosed := h.closed hk
  generalize phase s.provider = p at hk hfit hclosed
  cases p with
  | unmade | starting | given => simp [Phase.handle?] at hk
  | bound j | closing j =>
    have hlease : t.host.leaseOf s.provider = _ := congrArg Standing.lease hfit
    have hdown : t.shutdowns s.provider = 0 := congrArg Standing.shutdowns hfit
    refine ⟨by rw [hlease, hrounds], by omega, fun _ => hdown, fun hc => ?_⟩
    have hphase := hclosed hc
    simp at hphase
  | closed j =>
    have hlease : t.host.leaseOf s.provider = _ := congrArg Standing.lease hfit
    have hdown : t.shutdowns s.provider = _ := congrArg Standing.shutdowns hfit
    simp only [← hrounds] at hlease hdown
    refine ⟨by rw [hlease], ?_, fun hpos => ?_, fun _ hzero => ?_⟩
    · rw [hdown]
      split <;> omega
    · rw [hdown, if_neg (by omega)]
    · rw [hdown, if_pos hzero]

def starting : List (Move Scripted.HostWorld) :=
  [.ask (.setModel (.text "gemma-2-2b-it") none), .resume 0]

/-- The moves in which a session is closed in the middle of a round, which then ends. -/
def closingInRound : List (Move Scripted.HostWorld) :=
  [.ask (.readResponse 1), .ask (.close 1), .resume 2, .resume 1, .resume 1]

/-- What some moves lead to where everything follows the plainest of scripts. -/
def scripted (moves : List (Move Scripted.HostWorld)) :
    Traffic (Noted Host.Event Scripted.HostWorld) :=
  observed (Scripted.HostWorld.surroundings .standard {} ⟨2025, 1, 31⟩) {} moves

theorem leases_of_closingInRound :
    ((scripted starting).host.registry.get? 1).map Session.provider = some 0 ∧
      ((scripted (starting ++ closingInRound)).host.leaseOf 0).count = 0 ∧
      (scripted (starting ++ closingInRound)).shutdowns 0 = 1 := by
  have hprovider : ((scripted starting).host.registry.get? 1).map Session.provider = some 0 := by
    decide +kernel
  have hrounds : (scripted (starting ++ closingInRound)).rounds 1 = 0 := by
    decide +kernel
  have hclosed : (scripted (starting ++ closingInRound)).Closed 1 := by
    refine ⟨Option.isNone_iff_eq_none.1 ?_, ?_⟩ <;> decide +kernel
  obtain ⟨s, hs, hn⟩ := Option.map_eq_some_iff.1 hprovider
  obtain ⟨hcount, -, -, hend⟩ := leases_of_registered _ _ starting closingInRound hs
  rw [hn] at hcount hend
  exact ⟨hprovider, hcount.trans hrounds, hend hclosed hrounds⟩

end Traffic

end ChatHost
