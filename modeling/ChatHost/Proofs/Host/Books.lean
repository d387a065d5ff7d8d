import ChatHost.Provider.Lease
import ChatHost.Registry
import Mathlib.Logic.Function.Basic
import Mathlib.Tactic.SplitIfs

set_option autoImplicit false

/-!
The books of a host: which provider stands behind which handle, the leases on each provider, and how
often each has been shut down. A turn is what one step of a call may do to them. Every provider goes
through phases, and each turn moves one provider from one phase to the next.
-/

namespace ChatHost

/-- What a host keeps of handles, providers and leases. -/
structure Books where
  bindings : Handle → Option Nat
  next : Nat
  leases : Nat → Lease
  made : Nat
  shutdowns : Nat → Nat

namespace Books

def make (b : Books) : Books :=
  { b with made := b.made + 1 }

/-- A provider is put under the next handle, if there is one left. -/
def bind (n : Nat) (b : Books) : Books :=
  { b with
    bindings :=
      if b.next ≤ Registry.lastHandle then Function.update b.bindings b.next (some n)
      else b.bindings
    next := b.next + 1 }

def unbind (k : Handle) (b : Books) : Books :=
  { b with bindings := Function.update b.bindings k none }

def shutdown (n : Nat) (b : Books) : Books :=
  { b with shutdowns := Function.update b.shutdowns n (b.shutdowns n + 1) }

def setLease (n : Nat) (l : Lease) (b : Books) : Books :=
  { b with leases := Function.update b.leases n l }

def acquire (n : Nat) (b : Books) : Books :=
  b.setLease n (b.leases n).acquire

/-- A lease is given back, and the provider shut down when this is due. -/
def release (n : Nat) (b : Books) : Books :=
  let after := b.setLease n (b.leases n).release
  if (b.leases n).release.isDue then after.shutdown n else after

/-- A provider is closed, and shut down when no lease is held. -/
def close (n : Nat) (b : Books) : Books :=
  let after := b.setLease n (b.leases n).close
  if (b.leases n).closing = .now then after.shutdown n else after

theorem release_frame (n : Nat) (b : Books) :
    (b.release n).bindings = b.bindings ∧ (b.release n).next = b.next ∧
      (b.release n).made = b.made := by
  unfold release
  dsimp only
  split_ifs <;> exact ⟨rfl, rfl, rfl⟩

theorem close_frame (n : Nat) (b : Books) :
    (b.close n).bindings = b.bindings ∧ (b.close n).next = b.next ∧
      (b.close n).made = b.made := by
  unfold close
  dsimp only
  split_ifs <;> exact ⟨rfl, rfl, rfl⟩

end Books

/-- What a call that waits has in its hands. -/
inductive Stage where
  | idle
  /-- A provider that is to be started. -/
  | starting (provider : Nat)
  /-- A lease on a provider. -/
  | reading (provider : Nat)
  /-- A provider that has been taken from under a handle and is to be closed. -/
  | closing (handle : Handle) (provider : Nat)
  deriving DecidableEq

def Stage.provider? : Stage → Option Nat
  | .idle => none
  | .starting n | .reading n | .closing _ n => some n

/-- What the books know of a call: the handle on which it is a round that waits, and what it has in
its hands. -/
structure Entry where
  reader : Option Handle := none
  stage : Stage := .idle

/-- What one step of a call may do to its entry and to the books. -/
inductive Turn : Entry → Entry → Books → Books → Prop
  | idle (b : Books) : Turn {} {} b b
  | make (b : Books) : Turn {} { stage := .starting b.made } b b.make
  /-- A start that is broken off leaves its provider as it is. -/
  | drop (n : Nat) (b : Books) : Turn { stage := .starting n } {} b b
  /-- A provider that cannot be started is shut down. -/
  | fail (n : Nat) (b : Books) : Turn { stage := .starting n } {} b (b.shutdown n)
  | bind (n : Nat) (b : Books) : Turn { stage := .starting n } {} b (b.bind n)
  | acquire (k : Handle) (n : Nat) (b : Books) (h : b.bindings k = some n) :
      Turn {} ⟨some k, .reading n⟩ b (b.acquire n)
  | goOn (k : Handle) (n : Nat) (b : Books) :
      Turn ⟨some k, .reading n⟩ ⟨some k, .reading n⟩ b b
  | release (k : Handle) (n : Nat) (b : Books) : Turn ⟨some k, .reading n⟩ {} b (b.release n)
  | unbind (k : Handle) (n : Nat) (b : Books) (h : b.bindings k = some n) :
      Turn {} { stage := .closing k n } b (b.unbind k)
  | close (k : Handle) (n : Nat) (b : Books) :
      Turn { stage := .closing k n } {} b (b.close n)
  | trans {e f g : Entry} {b c d : Books} (h₁ : Turn e f b c) (h₂ : Turn f g c d) : Turn e g b d

theorem Turn.of_eq {e f : Entry} {b c d : Books} (ht : Turn e f b c) (h : d = c) :
    Turn e f b d :=
  h ▸ ht

/-- Where a provider stands between its making and its end. -/
inductive Phase where
  | unmade
  | starting
  /-- The start came to nothing. -/
  | given
  | bound (handle : Handle)
  | closing (handle : Handle)
  | closed (handle : Handle)

def Phase.handle? : Phase → Option Handle
  | .unmade | .starting | .given => none
  | .bound k | .closing k | .closed k => some k

/-- What the books and the calls say of one provider. -/
@[ext]
structure Standing where
  lease : Lease
  shutdowns : Nat
  /-- How many calls are to start it, hold a lease on it, and are to close it. -/
  starting : Nat
  reading : Nat
  closing : Nat

def Stage.closes (n : Nat) : Stage → Bool
  | .closing _ m => m = n
  | _ => false

/-- What the books and some calls say of a provider. -/
def standing (b : Books) (es : List Entry) (n : Nat) : Standing where
  lease := b.leases n
  shutdowns := b.shutdowns n
  starting := es.countP fun e => e.stage = .starting n
  reading := es.countP fun e => e.stage = .reading n
  closing := es.countP fun e => e.stage.closes n

def Phase.Fits : Phase → Standing → Prop
  | .unmade, s => s = ⟨{}, 0, 0, 0, 0⟩
  | .starting, s => s = ⟨{}, 0, 1, 0, 0⟩
  | .given, s => s = ⟨{}, s.shutdowns, 0, 0, 0⟩
  | .bound _, s => s = ⟨⟨s.reading, false⟩, 0, 0, s.reading, 0⟩
  | .closing _, s => s = ⟨⟨s.reading, false⟩, 0, 0, s.reading, 1⟩
  | .closed _, s => s = ⟨⟨s.reading, true⟩, if s.reading = 0 then 1 else 0, 0, s.reading, 0⟩

/-- The invariant of the books: every provider has the standing of its phase, and handles and calls
agree with the phases. -/
structure Ledger (phase : Nat → Phase) (b : Books) (es : List Entry) : Prop where
  fits (n : Nat) : (phase n).Fits (standing b es n)
  made (n : Nat) : phase n = .unmade ↔ b.made ≤ n
  bindings (k : Handle) (n : Nat) : b.bindings k = some n ↔ phase n = .bound k
  issued (k : Handle) (n : Nat) : (phase n).handle? = some k → k < b.next
  distinct (k : Handle) (m n : Nat) :
    (phase m).handle? = some k → (phase n).handle? = some k → m = n
  closers : ∀ e ∈ es, ∀ k n, e.stage = .closing k n → phase n = .closing k
  readers : ∀ e ∈ es, ∀ k,
    e.reader = some k ↔ ∃ n, e.stage = .reading n ∧ (phase n).handle? = some k

/-- A provider that was put under a handle belongs to it from then on. -/
def Keeps (before after : Nat → Phase) : Prop :=
  ∀ n k, (before n).handle? = some k → (after n).handle? = some k

theorem standing_cons (b : Books) (e : Entry) (es : List Entry) (n : Nat) :
    standing b (e :: es) n =
      { standing b es n with
        starting := (standing b es n).starting + if e.stage = .starting n then 1 else 0
        reading := (standing b es n).reading + if e.stage = .reading n then 1 else 0
        closing := (standing b es n).closing + if e.stage.closes n then 1 else 0 } := by
  simp [standing, List.countP_cons]

theorem standing_make (b : Books) (es : List Entry) (n : Nat) :
    standing b.make es n = standing b es n :=
  rfl

theorem standing_bind (b : Books) (es : List Entry) (m n : Nat) :
    standing (b.bind m) es n = standing b es n :=
  rfl

theorem standing_unbind (b : Books) (es : List Entry) (k : Handle) (n : Nat) :
    standing (b.unbind k) es n = standing b es n :=
  rfl

theorem standing_setLease (b : Books) (es : List Entry) (n : Nat) (l : Lease) :
    standing (b.setLease n l) es n = { standing b es n with lease := l } := by
  simp only [standing, Books.setLease, Function.update_self]

theorem standing_setLease_of_ne (b : Books) (es : List Entry) {m n : Nat} (l : Lease)
    (h : m ≠ n) : standing (b.setLease n l) es m = standing b es m := by
  simp only [standing, Books.setLease, Function.update_of_ne h]

theorem standing_shutdown_of_ne (b : Books) (es : List Entry) {m n : Nat} (h : m ≠ n) :
    standing (b.shutdown n) es m = standing b es m := by
  simp only [standing, Books.shutdown, Function.update_of_ne h]

theorem standing_release (b : Books) (es : List Entry) (n : Nat) :
    standing (b.release n) es n =
      { standing b es n with
        lease := (b.leases n).release
        shutdowns := b.shutdowns n + if (b.leases n).release.isDue then 1 else 0 } := by
  unfold Books.release
  dsimp only
  split_ifs <;> simp [standing, Books.setLease, Books.shutdown]

theorem standing_close (b : Books) (es : List Entry) (n : Nat) :
    standing (b.close n) es n =
      { standing b es n with
        lease := (b.leases n).close
        shutdowns := b.shutdowns n + if (b.leases n).closing = .now then 1 else 0 } := by
  unfold Books.close
  dsimp only
  split_ifs <;> simp [standing, Books.setLease, Books.shutdown]

theorem standing_release_of_ne (b : Books) (es : List Entry) {m n : Nat} (h : m ≠ n) :
    standing (b.release n) es m = standing b es m := by
  unfold Books.release
  dsimp only
  split_ifs
  · rw [standing_shutdown_of_ne _ _ h, standing_setLease_of_ne _ _ _ h]
  · exact standing_setLease_of_ne _ _ _ h

theorem standing_close_of_ne (b : Books) (es : List Entry) {m n : Nat} (h : m ≠ n) :
    standing (b.close n) es m = standing b es m := by
  unfold Books.close
  dsimp only
  split_ifs
  · rw [standing_shutdown_of_ne _ _ h, standing_setLease_of_ne _ _ _ h]
  · exact standing_setLease_of_ne _ _ _ h

theorem standing_cons_of_ne (b : Books) (e : Entry) (es : List Entry) {m n : Nat}
    (he : e.stage.provider? = some n) (h : m ≠ n) : standing b (e :: es) m = standing b es m := by
  cases hs : e.stage with
  | idle => simp [hs, Stage.provider?] at he
  | starting j | reading j | closing k j =>
    obtain rfl : j = n := by simpa [hs, Stage.provider?] using he
    simp [standing_cons, hs, Stage.closes, Ne.symm h]

theorem standing_cons_idle (b : Books) (e : Entry) (es : List Entry) (n : Nat)
    (he : e.stage = .idle) : standing b (e :: es) n = standing b es n := by
  simp [standing_cons, he, Stage.closes]

theorem standing_perm {es fs : List Entry} (h : es.Perm fs) (b : Books) (n : Nat) :
    standing b es n = standing b fs n := by
  simp only [standing, h.countP_eq]

namespace Ledger

variable {phase : Nat → Phase} {b : Books} {es : List Entry}

theorem perm {fs : List Entry} (h : Ledger phase b es) (hp : es.Perm fs) : Ledger phase b fs where
  fits n := standing_perm hp b n ▸ h.fits n
  made := h.made
  bindings := h.bindings
  issued := h.issued
  distinct := h.distinct
  closers e he := h.closers e (hp.mem_iff.2 he)
  readers e he := h.readers e (hp.mem_iff.2 he)

theorem stage_of_reading_zero {n : Nat} (h : (standing b es n).reading = 0) :
    ∀ f ∈ es, f.stage ≠ .reading n := by
  intro f hf he
  have := List.countP_eq_zero.1 h f hf
  simp [he] at this

theorem stage_of_closing_zero {n : Nat} (h : (standing b es n).closing = 0) :
    ∀ f ∈ es, ∀ k, f.stage ≠ .closing k n := by
  intro f hf k he
  have := List.countP_eq_zero.1 h f hf
  simp [he, Stage.closes] at this

/-- Where leases on a provider are held, it has been put under a handle. -/
theorem handle_of_reading (h : Ledger phase b es) {f : Entry} (hf : f ∈ es) {n : Nat}
    (he : f.stage = .reading n) : ∃ k, (phase n).handle? = some k := by
  have hpos : (standing b es n).reading ≠ 0 := fun h0 => stage_of_reading_zero h0 f hf he
  have hfit := h.fits n
  cases hp : phase n with
  | unmade | starting | given =>
    rw [hp] at hfit
    exact absurd (congrArg Standing.reading hfit) hpos
  | bound k | closing k | closed k => exact ⟨k, rfl⟩

/-- One call takes a step that moves one provider to another phase. -/
theorem move {e e' : Entry} {b' : Books} {n : Nat} {p : Phase} (h : Ledger phase b (e :: es))
    (others : ∀ m, m ≠ n → standing b' (e' :: es) m = standing b (e :: es) m)
    (fits : p.Fits (standing b' (e' :: es) n))
    (made : ∀ m, Function.update phase n p m = .unmade ↔ b'.made ≤ m)
    (keeps : ∀ k, (phase n).handle? = some k → p.handle? = some k)
    (bindings : ∀ k m, b'.bindings k = some m ↔ Function.update phase n p m = .bound k)
    (fresh : ∀ k, p.handle? = some k →
      (phase n).handle? = some k ∨ k = b.next ∧ b.next < b'.next)
    (next : b.next ≤ b'.next)
    (closers : ∀ f ∈ es, ∀ k, f.stage = .closing k n → p = .closing k)
    (closer : ∀ k m, e'.stage = .closing k m → m = n ∧ p = .closing k)
    (reader : ∀ k, e'.reader = some k ↔ e'.stage = .reading n ∧ p.handle? = some k)
    (mine : ∀ m, e'.stage = .reading m → m = n) :
    Ledger (Function.update phase n p) b' (e' :: es) where
  fits m := by
    by_cases hm : m = n
    · subst hm
      simpa using fits
    · rw [Function.update_of_ne hm, others m hm]
      exact h.fits m
  made := made
  bindings := bindings
  issued k m hk := by
    by_cases hm : m = n
    · subst hm
      rcases fresh k (by simpa using hk) with hk | ⟨rfl, hlt⟩
      · exact Int.lt_of_lt_of_le (h.issued k m hk) (Int.ofNat_le.2 next)
      · exact Int.ofNat_lt.2 hlt
    · rw [Function.update_of_ne hm] at hk
      exact Int.lt_of_lt_of_le (h.issued k m hk) (Int.ofNat_le.2 next)
  distinct k l m hl hm := by
    have hother : ∀ m, p.handle? = some k → (phase m).handle? = some k → m = n := by
      intro m hp hm
      rcases fresh k hp with hk | ⟨rfl, -⟩
      · exact h.distinct k m n hm hk
      · exact absurd (h.issued _ m hm) (Int.lt_irrefl _)
    by_cases hln : l = n
    · by_cases hmn : m = n
      · exact hln.trans hmn.symm
      · subst hln
        rw [Function.update_self] at hl
        rw [Function.update_of_ne hmn] at hm
        exact (hother m hl hm).symm
    · rw [Function.update_of_ne hln] at hl
      by_cases hmn : m = n
      · subst hmn
        rw [Function.update_self] at hm
        exact hother l hm hl
      · rw [Function.update_of_ne hmn] at hm
        exact h.distinct k l m hl hm
  closers f hf k m he := by
    rcases List.mem_cons.1 hf with rfl | hf
    · obtain ⟨rfl, hp⟩ := closer k m he
      simpa using hp
    · by_cases hm : m = n
      · subst hm
        simpa using closers f hf k he
      · rw [Function.update_of_ne hm]
        exact h.closers f (List.mem_cons_of_mem e hf) k m he
  readers f hf k := by
    rcases List.mem_cons.1 hf with rfl | hf
    · rw [reader k]
      constructor
      · rintro ⟨hs, hk⟩
        exact ⟨n, hs, by simpa using hk⟩
      · rintro ⟨m, hs, hk⟩
        obtain rfl := mine m hs
        exact ⟨hs, by simpa using hk⟩
    · have hf' := List.mem_cons_of_mem e hf
      rw [h.readers f hf' k]
      refine exists_congr fun m => and_congr_right fun hs => ?_
      by_cases hm : m = n
      · subst hm
        -- a lease is held on the provider, so its handle is not new
        obtain ⟨j, hj⟩ := h.handle_of_reading hf' hs
        have hp := keeps j hj
        simp only [Function.update_self, hj, hp]
      · rw [Function.update_of_ne hm]

theorem update_eq_iff {n : Nat} {p q : Phase} {m : Nat} (hn : phase n ≠ q) (hp : p ≠ q) :
    Function.update phase n p m = q ↔ phase m = q := by
  by_cases hm : m = n
  · subst hm
    simp [hn, hp]
  · rw [Function.update_of_ne hm]

theorem keeps_update {n : Nat} {p : Phase}
    (keeps : ∀ k, (phase n).handle? = some k → p.handle? = some k) :
    Keeps phase (Function.update phase n p) := by
  intro m k hk
  by_cases hm : m = n
  · subst hm
    simpa using keeps k hk
  · rwa [Function.update_of_ne hm]

theorem phase_of_starting {n : Nat} (h : Ledger phase b ({ stage := .starting n } :: es)) :
    phase n = .starting := by
  have hfit := h.fits n
  have hpos : 0 < (standing b ({ stage := .starting n } :: es) n).starting := by
    simp [standing_cons]
  cases hp : phase n with
  | starting => rfl
  | unmade | given | bound k | closing k | closed k =>
    rw [hp] at hfit
    have h0 := congrArg Standing.starting hfit
    simp only at h0
    omega

theorem make (h : Ledger phase b ({} :: es)) :
    Ledger (Function.update phase b.made .starting) b.make
      ({ stage := .starting b.made } :: es) := by
  have hmade := (h.made b.made).2 (Nat.le_refl _)
  have hfit : standing b es b.made = ⟨{}, 0, 0, 0, 0⟩ := by
    simpa [hmade, Phase.Fits, standing_cons_idle] using h.fits b.made
  refine h.move (fun m hm => ?_) ?_ (fun m => ?_) ?_ (fun k m => ?_) ?_ (Nat.le_refl _) ?_ ?_ ?_ ?_
  · rw [standing_cons_of_ne _ _ _ rfl hm, standing_cons_idle _ _ _ _ rfl, standing_make]
  · simp [Phase.Fits, standing_cons, standing_make, hfit, Stage.closes]
  · show _ ↔ b.made + 1 ≤ m
    by_cases hm : m = b.made
    · subst hm
      simp
    · rw [Function.update_of_ne hm, h.made]
      omega
  · simp [hmade, Phase.handle?]
  · exact (h.bindings k m).trans (update_eq_iff (by simp [hmade]) (by simp)).symm
  · simp [Phase.handle?]
  · intro f hf k he
    have := h.closers f (List.mem_cons_of_mem _ hf) k _ he
    simp [hmade] at this
  · simp
  · simp
  · simp

theorem standing_of_starting {n : Nat} (h : Ledger phase b ({ stage := .starting n } :: es)) :
    standing b es n = ⟨{}, 0, 0, 0, 0⟩ := by
  have hfit := h.fits n
  rw [h.phase_of_starting, Phase.Fits, standing_cons, Standing.mk.injEq] at hfit
  obtain ⟨hl, hd, hs, hr, hc⟩ := hfit
  simp [Stage.closes] at hs hr hc
  exact Standing.ext hl hd hs hr hc

/-- A provider that was to be started is given up. -/
theorem giveUp {b' : Books} {n : Nat} (h : Ledger phase b ({ stage := .starting n } :: es))
    (bindings : b'.bindings = b.bindings) (next : b.next ≤ b'.next) (made : b'.made = b.made)
    (others : ∀ m, m ≠ n → standing b' es m = standing b es m)
    (mine : standing b' es n = { standing b es n with shutdowns := b'.shutdowns n }) :
    Ledger (Function.update phase n .given) b' ({} :: es) := by
  have hstart := h.phase_of_starting
  have hfit := h.standing_of_starting
  refine h.move (fun m hm => ?_) ?_ (fun m => ?_) ?_ (fun k m => ?_) ?_ next ?_ ?_ ?_ ?_
  · rw [standing_cons_idle _ _ _ _ rfl, standing_cons_of_ne _ _ _ rfl hm, others m hm]
  · simp [Phase.Fits, standing_cons_idle, mine, hfit]
  · rw [made]
    exact (update_eq_iff (by simp [hstart]) (by simp)).trans (h.made m)
  · simp [hstart, Phase.handle?]
  · rw [bindings]
    exact (h.bindings k m).trans (update_eq_iff (by simp [hstart]) (by simp)).symm
  · simp [Phase.handle?]
  · intro f hf k he
    have := h.closers f (List.mem_cons_of_mem _ hf) k _ he
    simp [hstart] at this
  · simp
  · simp
  · simp

/-- A provider that has been started is put under the next handle. -/
theorem bind {n : Nat} (h : Ledger phase b ({ stage := .starting n } :: es))
    (hnext : b.next ≤ Registry.lastHandle) :
    Ledger (Function.update phase n (.bound b.next)) (b.bind n) ({} :: es) := by
  have hstart := h.phase_of_starting
  have hfit := h.standing_of_starting
  have hnew : ∀ m, phase m ≠ .bound b.next := by
    intro m hm
    exact Int.lt_irrefl _ (h.issued b.next m (by rw [hm]; rfl))
  refine h.move (fun m hm => ?_) ?_ (fun m => ?_) ?_ (fun k m => ?_) ?_ (Nat.le_succ _) ?_ ?_ ?_ ?_
  · rw [standing_cons_idle _ _ _ _ rfl, standing_cons_of_ne _ _ _ rfl hm, standing_bind]
  · simp [Phase.Fits, standing_cons_idle, standing_bind, hfit]
  · exact (update_eq_iff (by simp [hstart]) (by simp)).trans (h.made m)
  · simp [hstart, Phase.handle?]
  · simp only [Books.bind, if_pos hnext]
    by_cases hk : k = b.next
    · subst hk
      by_cases hm : m = n
      · subst hm
        simp
      · simp [Function.update_of_ne hm, hnew m, Ne.symm hm]
    · rw [Function.update_of_ne hk, h.bindings]
      exact (update_eq_iff (by simp [hstart]) (by simpa using Ne.symm hk)).symm
  · intro k hk
    obtain rfl : (b.next : Int) = k := by simpa [Phase.handle?] using hk
    exact .inr ⟨rfl, Nat.lt_succ_self _⟩
  · intro f hf k he
    have := h.closers f (List.mem_cons_of_mem _ hf) k _ he
    simp [hstart] at this
  · simp
  · simp
  · simp

/-- A step that leaves a provider in its phase. -/
theorem stay {e e' : Entry} {b' : Books} {n : Nat} (h : Ledger phase b (e :: es))
    (others : ∀ m, m ≠ n → standing b' (e' :: es) m = standing b (e :: es) m)
    (fits : (phase n).Fits (standing b' (e' :: es) n)) (bindings : b'.bindings = b.bindings)
    (next : b'.next = b.next) (made : b'.made = b.made)
    (closer : ∀ k m, e'.stage ≠ .closing k m)
    (reader : ∀ k, e'.reader = some k ↔ e'.stage = .reading n ∧ (phase n).handle? = some k)
    (mine : ∀ m, e'.stage = .reading m → m = n) : Ledger phase b' (e' :: es) := by
  have hmove : Ledger (Function.update phase n (phase n)) b' (e' :: es) := by
    refine h.move others fits ?_ (fun _ hk => hk) ?_ (fun _ hk => .inl hk)
      (Nat.le_of_eq next.symm) ?_ ?_ reader mine
    · simpa [made] using h.made
    · simpa [bindings] using h.bindings
    · exact fun f hf k he => h.closers f (List.mem_cons_of_mem _ hf) k n he
    · exact fun k m he => absurd he (closer k m)
  rwa [Function.update_eq_self] at hmove

theorem acquire {k : Handle} {n : Nat} (h : Ledger phase b ({} :: es))
    (hk : b.bindings k = some n) : Ledger phase (b.acquire n) (⟨some k, .reading n⟩ :: es) := by
  have hbound := (h.bindings k n).1 hk
  have hfit : standing b es n =
      ⟨⟨(standing b es n).reading, false⟩, 0, 0, (standing b es n).reading, 0⟩ := by
    simpa [hbound, Phase.Fits, standing_cons_idle] using h.fits n
  have hlease : b.leases n = ⟨(standing b es n).reading, false⟩ := congrArg Standing.lease hfit
  refine h.stay (n := n) (fun m hm => ?_) ?_ rfl rfl rfl ?_ ?_ ?_
  · rw [standing_cons_of_ne _ _ _ rfl hm, standing_cons_idle _ _ _ _ rfl]
    exact standing_setLease_of_ne b es _ hm
  · simp only [hbound, Phase.Fits, Books.acquire, standing_cons, standing_setLease, hlease]
    rw [hfit]
    simp [Lease.acquire, Stage.closes]
  · simp
  · simp [hbound, Phase.handle?]
  · simp

theorem release {k : Handle} {n : Nat} (h : Ledger phase b (⟨some k, .reading n⟩ :: es)) :
    Ledger phase (b.release n) ({} :: es) := by
  obtain ⟨hbindings, hnext, hmade⟩ := Books.release_frame n b
  obtain ⟨j, hj⟩ := h.handle_of_reading (f := ⟨some k, .reading n⟩) (by simp) rfl
  have hfit := h.fits n
  refine h.stay (n := n) (fun m hm => ?_) ?_ hbindings hnext hmade ?_ ?_ ?_
  · rw [standing_cons_idle _ _ _ _ rfl, standing_cons_of_ne _ _ _ rfl hm,
      standing_release_of_ne _ _ hm]
  · rw [standing_cons_idle _ _ _ _ rfl, standing_release]
    rw [standing_cons] at hfit
    cases hp : phase n with
    | unmade | starting | given => simp [hp, Phase.handle?] at hj
    | bound i | closing i =>
      simp [hp, Phase.Fits, Stage.closes] at hfit
      obtain ⟨hl, hd, hs, hc⟩ := hfit
      have hlease : b.leases n = _ := hl
      have hshut : b.shutdowns n = _ := hd
      simp [Phase.Fits, hlease, hshut, hs, hc, Lease.release, Lease.isDue]
    | closed i =>
      simp [hp, Phase.Fits, Stage.closes] at hfit
      obtain ⟨hl, hd, hs, hc⟩ := hfit
      have hlease : b.leases n = _ := hl
      have hshut : b.shutdowns n = _ := hd
      simp [Phase.Fits, hlease, hshut, hs, hc, Lease.release, Lease.isDue]
  · simp
  · simp
  · simp

theorem unbind {k : Handle} {n : Nat} (h : Ledger phase b ({} :: es))
    (hk : b.bindings k = some n) :
    Ledger (Function.update phase n (.closing k)) (b.unbind k)
      ({ stage := .closing k n } :: es) := by
  have hbound := (h.bindings k n).1 hk
  have hfit : standing b es n =
      ⟨⟨(standing b es n).reading, false⟩, 0, 0, (standing b es n).reading, 0⟩ := by
    simpa [hbound, Phase.Fits, standing_cons_idle] using h.fits n
  refine h.move (fun m hm => ?_) ?_ (fun m => ?_) ?_ (fun j m => ?_) ?_ (Nat.le_refl _) ?_ ?_ ?_ ?_
  · rw [standing_cons_of_ne _ _ _ rfl hm, standing_cons_idle _ _ _ _ rfl, standing_unbind]
  · rw [standing_cons, standing_unbind, hfit]
    simp [Phase.Fits, Stage.closes]
  · exact (update_eq_iff (by simp [hbound]) (by simp)).trans (h.made m)
  · simp [hbound, Phase.handle?]
  · by_cases hj : j = k
    · subst hj
      by_cases hm : m = n
      · subst hm
        simp [Books.unbind]
      · have hother : phase m ≠ .bound j := by
          intro hphase
          exact hm (Option.some.inj (((h.bindings j m).2 hphase).symm.trans hk))
        simp [Books.unbind, Function.update_of_ne hm, hother]
    · change Function.update b.bindings k none j = some m ↔ _
      rw [Function.update_of_ne hj, h.bindings]
      exact (update_eq_iff (by simpa [hbound] using Ne.symm hj) (by simp)).symm
  · exact fun j hj => .inl (by simpa [hbound, Phase.handle?] using hj)
  · intro f hf j he
    have := h.closers f (List.mem_cons_of_mem _ hf) j _ he
    simp [hbound] at this
  · simp
  · simp
  · simp

theorem close {k : Handle} {n : Nat} (h : Ledger phase b ({ stage := .closing k n } :: es)) :
    Ledger (Function.update phase n (.closed k)) (b.close n) ({} :: es) := by
  obtain ⟨hbindings, hnext, hmade⟩ := Books.close_frame n b
  have hclosing : phase n = .closing k := h.closers _ List.mem_cons_self k n rfl
  have hfit := h.fits n
  rw [hclosing, standing_cons] at hfit
  simp [Phase.Fits, Stage.closes] at hfit
  obtain ⟨hl, hd, hs, hc⟩ := hfit
  have hlease : b.leases n = _ := hl
  have hshut : b.shutdowns n = _ := hd
  refine h.move (fun m hm => ?_) ?_ (fun m => ?_) ?_ (fun j m => ?_) ?_ (Nat.le_of_eq hnext.symm)
    ?_ ?_ ?_ ?_
  · rw [standing_cons_idle _ _ _ _ rfl, standing_cons_of_ne _ _ _ rfl hm,
      standing_close_of_ne _ _ hm]
  · rw [standing_cons_idle _ _ _ _ rfl, standing_close]
    simp [Phase.Fits, hlease, hshut, hs, hc, Lease.close, Lease.closing]
  · rw [hmade]
    exact (update_eq_iff (by simp [hclosing]) (by simp)).trans (h.made m)
  · simp [hclosing, Phase.handle?]
  · rw [hbindings]
    exact (h.bindings j m).trans (update_eq_iff (by simp [hclosing]) (by simp)).symm
  · exact fun j hj => .inl (by simpa [hclosing, Phase.handle?] using hj)
  · intro f hf j he
    exact absurd he (stage_of_closing_zero hc f hf j)
  · simp
  · simp
  · simp

/-- Every turn keeps the ledger. -/
theorem turn {e e' : Entry} {b' : Books} (h : Ledger phase b (e :: es)) (ht : Turn e e' b b') :
    ∃ phase', Keeps phase phase' ∧ Ledger phase' b' (e' :: es) := by
  induction ht generalizing phase with
  | idle b => exact ⟨phase, fun _ _ hk => hk, h⟩
  | make b =>
    have hmade := (h.made b.made).2 (Nat.le_refl _)
    exact ⟨_, keeps_update (by simp [hmade, Phase.handle?]), h.make⟩
  | drop n b =>
    have hstart := h.phase_of_starting
    refine ⟨_, keeps_update (n := n) (p := .given) (by simp [hstart, Phase.handle?]), ?_⟩
    exact h.giveUp rfl (Nat.le_refl _) rfl (fun _ _ => rfl) rfl
  | fail n b =>
    have hstart := h.phase_of_starting
    refine ⟨_, keeps_update (n := n) (p := .given) (by simp [hstart, Phase.handle?]), ?_⟩
    exact h.giveUp rfl (Nat.le_refl _) rfl (fun m hm => standing_shutdown_of_ne b es hm) rfl
  | bind n b =>
    have hstart := h.phase_of_starting
    by_cases hnext : b.next ≤ Registry.lastHandle
    · exact ⟨_, keeps_update (by simp [hstart, Phase.handle?]), h.bind hnext⟩
    · refine ⟨_, keeps_update (n := n) (p := .given) (by simp [hstart, Phase.handle?]), ?_⟩
      exact h.giveUp (if_neg hnext) (Nat.le_succ _) rfl (fun _ _ => rfl) rfl
  | acquire k n b hk => exact ⟨phase, fun _ _ hk => hk, h.acquire hk⟩
  | goOn k n b => exact ⟨phase, fun _ _ hk => hk, h⟩
  | release k n b => exact ⟨phase, fun _ _ hk => hk, h.release⟩
  | unbind k n b hk =>
    have hbound := (h.bindings k n).1 hk
    exact ⟨_, keeps_update (by simp [hbound, Phase.handle?]), h.unbind hk⟩
  | close k n b =>
    have hclosing : phase n = .closing k := h.closers _ List.mem_cons_self k n rfl
    exact ⟨_, keeps_update (by simp [hclosing, Phase.handle?]), h.close⟩
  | trans _ _ ih₁ ih₂ =>
    obtain ⟨phase₁, hkeeps₁, h₁⟩ := ih₁ h
    obtain ⟨phase₂, hkeeps₂, h₂⟩ := ih₂ h₁
    exact ⟨phase₂, fun n k hk => hkeeps₂ n k (hkeeps₁ n k hk), h₂⟩

/-- A call that has not begun changes nothing. -/
theorem idle (h : Ledger phase b es) : Ledger phase b ({} :: es) where
  fits n := by
    rw [standing_cons_idle _ _ _ _ rfl]
    exact h.fits n
  made := h.made
  bindings := h.bindings
  issued := h.issued
  distinct := h.distinct
  closers e he := by
    rcases List.mem_cons.1 he with rfl | he
    · simp
    · exact h.closers e he
  readers e he := by
    rcases List.mem_cons.1 he with rfl | he
    · simp
    · exact h.readers e he

end Ledger

end ChatHost
