import ChatHost.Proofs.Noted
import ChatHost.Provider.Lease
import ChatHost.Scripted.Provider
import Mathlib.Tactic.SplitIfs

set_option autoImplicit false

/-!
A provider in several hands. However leases are taken and given back, in blocks and outside of them,
and however often the provider is closed, it is shut down once, when it has been closed and the last
lease has been given back. What a close answers says so, but for one that comes while an earlier
close still waits for a lease.
-/

namespace ChatHost

def Provider.Event.isShutdown : Provider.Event → Bool
  | .shutdown => true
  | .start _ | .ask _ => false

namespace SharedProvider

variable {σ : Type}

/-- What is done with a shared provider. What comes next may depend on what the last step came to,
so that a failure is caught or passed on. -/
inductive Client where
  | stop (result : Except (Failure ProviderError) Unit)
  | acquire (next : Client)
  | release (next : Except Fault Unit → Client)
  | close (next : Except (Failure ProviderError) Bool → Client)
  /-- A block that holds a lease. -/
  | hold (block : Client) (next : Except (Failure ProviderError) Unit → Client)

def Client.act (p : Provider σ) :
    Client → Act (SharedProvider σ) (Except (Failure ProviderError) Unit)
  | .stop result => return result
  | .acquire next => do
    SharedProvider.acquire
    next.act p
  | .release next => do
    let result ← SharedProvider.release p
    (next result).act p
  | .close next => do
    let answer ← SharedProvider.close p
    (next answer).act p
  | .hold block next => do
    let result ← SharedProvider.hold p (block.act p)
    (next result).act p

inductive Step where
  | acquire
  | release
  | close (answer : Except (Failure ProviderError) Bool)

/-- A step that has been taken, and what it has led to. -/
structure Moment (σ : Type) where
  step : Step
  state : SharedProvider σ

/-- The steps that are taken from a state on. A block takes one before it begins and one when it has
ended. -/
def Client.moments (p : Provider σ) : Client → SharedProvider σ → List (Moment σ)
  | .stop _, _ => []
  | .acquire next, s =>
    let taken := (SharedProvider.acquire.run s).world
    ⟨.acquire, taken⟩ :: next.moments p taken
  | .release next, s =>
    let out := (SharedProvider.release p).run s
    ⟨.release, out.world⟩ :: (next out.result).moments p out.world
  | .close next, s =>
    let out := (SharedProvider.close p).run s
    ⟨.close out.result, out.world⟩ :: (next out.result).moments p out.world
  | .hold block next, s =>
    let taken := (SharedProvider.acquire.run s).world
    let out := (SharedProvider.hold p (block.act p)).run s
    ⟨.acquire, taken⟩ :: block.moments p taken ++
      ⟨.release, out.world⟩ :: (next out.result).moments p out.world

namespace Step

def acquired (steps : List Step) : Nat :=
  steps.countP (· matches .acquire)

def released (steps : List Step) : Nat :=
  steps.countP (· matches .release)

def HasClosed (steps : List Step) : Prop :=
  ∃ step ∈ steps, step matches .close _

instance (steps : List Step) : Decidable (HasClosed steps) :=
  inferInstanceAs (Decidable (∃ step ∈ steps, _))

/-- Whether a step may follow some others: only a lease that is held is given back, and none is
taken once the provider has been closed and no lease is held. -/
def Follows (done : List Step) : Step → Prop
  | .acquire => ¬ (HasClosed done ∧ acquired done = released done)
  | .release => released done < acquired done
  | .close _ => True

instance (done : List Step) : (step : Step) → Decidable (step.Follows done)
  | .acquire => inferInstanceAs (Decidable (¬ _))
  | .release => inferInstanceAs (Decidable (_ < _))
  | .close _ => inferInstanceAs (Decidable True)

/-- Whether each of some steps may follow those before it, the first of them some that are already
done. -/
def Orderly (done : List Step) : List Step → Prop
  | [] => True
  | step :: steps => step.Follows done ∧ Orderly (done ++ [step]) steps

instance decidableOrderly : (done steps : List Step) → Decidable (Orderly done steps)
  | _, [] => inferInstanceAs (Decidable True)
  | done, step :: steps =>
    have := decidableOrderly (done ++ [step]) steps
    inferInstanceAs (Decidable (_ ∧ _))

theorem orderly_append {done xs ys : List Step} :
    Orderly done (xs ++ ys) ↔ Orderly done xs ∧ Orderly (done ++ xs) ys := by
  induction xs generalizing done with
  | nil => simp [Orderly]
  | cons step xs ih => simp [Orderly, ih, and_assoc]

theorem acquired_concat (done : List Step) (step : Step) :
    acquired (done ++ [step]) = acquired done + acquired [step] :=
  List.countP_append

theorem released_concat (done : List Step) (step : Step) :
    released (done ++ [step]) = released done + released [step] :=
  List.countP_append

theorem hasClosed_concat {done : List Step} {step : Step} :
    HasClosed (done ++ [step]) ↔ HasClosed done ∨ step matches .close _ := by
  simp [HasClosed, or_and_right, exists_or]

/-- What is known, after some steps, of the leases and of how often the provider has been shut
down. -/
structure Sound (done : List Step) (l : Lease) (downs : Nat) : Prop where
  leases : l.count + released done = acquired done
  closed : l.closed = true ↔ HasClosed done
  shutdowns : downs = if l.closed = true ∧ l.count = 0 then 1 else 0
  /-- Where the shutdown waits for a lease, a close has said so. -/
  deferred : l.closed = true → 0 < l.count → .close (.ok false) ∈ done

/-- What a close may answer, and how often the provider has been shut down then. -/
inductive Answers (l : Lease) (downs : Nat) : Except (Failure ProviderError) Bool → Nat → Prop
  | already (hclosed : l.closed = true) : Answers l downs (.ok true) downs
  | deferred (hopen : l.closed = false) (hheld : 0 < l.count) : Answers l downs (.ok false) downs
  | now (hopen : l.closed = false) (hnone : l.count = 0)
      {answer : Except (Failure ProviderError) Bool} (hanswer : answer ≠ .ok false) :
      Answers l downs answer (downs + 1)

theorem sound_nil : Sound [] {} 0 where
  leases := rfl
  closed := by simp [HasClosed]
  shutdowns := rfl
  deferred := nofun

section Sound

variable {done : List Step} {l : Lease} {downs : Nat}

theorem Sound.acquire (h : Sound done l downs) (hstep : Step.acquire.Follows done) :
    Sound (done ++ [.acquire]) l.acquire downs := by
  have hopen : ¬ (l.closed = true ∧ l.count = 0) := by
    rintro ⟨hclosed, hnone⟩
    refine hstep ⟨h.closed.1 hclosed, ?_⟩
    rw [← h.leases, hnone, Nat.zero_add]
  refine ⟨?_, ?_, ?_, fun hclosed _ => ?_⟩
  · rw [acquired_concat, released_concat, ← h.leases]
    exact Nat.add_right_comm l.count 1 (released done)
  · simp [Lease.acquire, hasClosed_concat, h.closed]
  · rw [h.shutdowns, if_neg hopen, if_neg]
    simp [Lease.acquire]
  · have hpos : 0 < l.count := Nat.pos_of_ne_zero fun hnone => hopen ⟨hclosed, hnone⟩
    exact List.mem_append_left _ (h.deferred hclosed hpos)

theorem Sound.release (h : Sound done l downs) (hstep : Step.release.Follows done) :
    Sound (done ++ [.release]) l.release (downs + if l.release.isDue then 1 else 0) := by
  have hheld : 0 < l.count := by
    have hleases := h.leases
    have hfewer : released done < acquired done := hstep
    omega
  have hnever : downs = 0 := by
    rw [h.shutdowns, if_neg]
    exact fun hdue => Nat.ne_of_gt hheld hdue.2
  refine ⟨?_, ?_, ?_, fun hclosed _ => ?_⟩
  · rw [acquired_concat, released_concat, ← h.leases]
    change l.count - 1 + (released done + 1) = l.count + released done
    omega
  · simp [Lease.release, hasClosed_concat, h.closed]
  · simp [hnever, Lease.isDue]
  · exact List.mem_append_left _ (h.deferred hclosed hheld)

theorem Sound.close (h : Sound done l downs) {answer : Except (Failure ProviderError) Bool}
    {downs' : Nat} (hanswer : Answers l downs answer downs') :
    Sound (done ++ [.close answer]) l.close downs' := by
  have hleases : l.count + released (done ++ [.close answer]) =
      acquired (done ++ [.close answer]) := by
    rw [acquired_concat, released_concat]
    exact h.leases
  have hclosed : l.close.closed = true ↔ HasClosed (done ++ [.close answer]) := by
    simp [Lease.close, hasClosed_concat]
  have hdowns := h.shutdowns
  cases hanswer with
  | already hbefore =>
    refine ⟨hleases, hclosed, ?_, fun _ hheld => ?_⟩
    · simpa [Lease.close, hbefore] using hdowns
    · exact List.mem_append_left _ (h.deferred hbefore hheld)
  | deferred hopen hheld =>
    refine ⟨hleases, hclosed, ?_, fun _ _ => ?_⟩
    · simpa [Lease.close, hopen, Nat.ne_of_gt hheld] using hdowns
    · exact List.mem_append_right _ (List.mem_singleton_self _)
  | now hopen hnone =>
    refine ⟨hleases, hclosed, ?_, fun _ hheld => ?_⟩
    · simpa [Lease.close, hopen, hnone] using hdowns
    · exact absurd hnone (Nat.ne_of_gt hheld)

end Sound

end Step

/-- Whether a moment is what a step leads to from a state. -/
inductive Next (p : Provider σ) (s : SharedProvider σ) : Moment σ → Prop
  | acquire : Next p s ⟨.acquire, (SharedProvider.acquire.run s).world⟩
  | release : Next p s ⟨.release, ((SharedProvider.release p).run s).world⟩
  | close :
      Next p s ⟨.close ((SharedProvider.close p).run s).result,
        ((SharedProvider.close p).run s).world⟩

/-- Whether steps lead from one state to another, each from where the last one has led to. -/
inductive Walk (p : Provider σ) :
    SharedProvider σ → List (Moment σ) → SharedProvider σ → Prop
  | nil (s : SharedProvider σ) : Walk p s [] s
  | cons {s t : SharedProvider σ} {m : Moment σ} {ms : List (Moment σ)} (hm : Next p s m)
      (hms : Walk p m.state ms t) : Walk p s (m :: ms) t

theorem walk_append {p : Provider σ} {s t : SharedProvider σ} {xs ys : List (Moment σ)} :
    Walk p s (xs ++ ys) t ↔ ∃ u, Walk p s xs u ∧ Walk p u ys t := by
  induction xs generalizing s with
  | nil =>
    constructor
    · exact fun h => ⟨s, .nil s, h⟩
    · rintro ⟨u, ⟨⟩, h⟩
      exact h
  | cons m xs ih =>
    constructor
    · rintro (_ | ⟨hm, hrest⟩)
      obtain ⟨u, hxs, hys⟩ := ih.1 hrest
      exact ⟨u, .cons hm hxs, hys⟩
    · rintro ⟨u, _ | ⟨hm, hxs⟩, hys⟩
      exact .cons hm (ih.2 ⟨u, hxs, hys⟩)

theorem hold_world (p : Provider σ)
    (block : Act (SharedProvider σ) (Except (Failure ProviderError) Unit)) (s : SharedProvider σ) :
    ((hold p block).run s).world =
      ((release p).run (block.run (acquire.run s).world).world).world := by
  unfold hold
  simp only [Act.world_bind]
  split <;> rfl

/-- The moments of what is done with a provider are single steps, which lead to where doing it
leads. -/
theorem Client.walk_moments (c : Client) (p : Provider σ) (s : SharedProvider σ) :
    Walk p s (c.moments p s) ((c.act p).run s).world := by
  induction c generalizing s with
  | stop result => exact .nil s
  | acquire next ih => exact .cons .acquire (ih _)
  | release next ih => exact .cons .release (ih _ _)
  | close next ih => exact .cons .close (ih _ _)
  | hold block next ihblock ihnext =>
    have hblock := ihblock (SharedProvider.acquire.run s).world
    have hleave : Next p ((block.act p).run (SharedProvider.acquire.run s).world).world
        ⟨.release, ((SharedProvider.hold p (block.act p)).run s).world⟩ := by
      rw [hold_world]
      exact .release
    exact .cons .acquire (walk_append.2 ⟨_, hblock, .cons hleave (ihnext _ _)⟩)

def shutdowns (s : SharedProvider (Noted Provider.Event σ)) : Nat :=
  s.world.notes.countP Provider.Event.isShutdown

/-- The leases, and how often the provider has been shut down. -/
def tally (s : SharedProvider (Noted Provider.Event σ)) : Lease × Nat :=
  (s.lease, s.shutdowns)

section Tally

variable (p : Provider σ) (s : SharedProvider (Noted Provider.Event σ))

theorem tally_shutdown :
    tally ((within (p.noted id).shutdown).run s).world = (s.lease, s.shutdowns + 1) :=
  congrArg (Prod.mk _) List.countP_append

theorem tally_deferredShutdown :
    tally ((Lease.deferredShutdown (within (p.noted id).shutdown)).run s).world =
      (s.lease, s.shutdowns + 1) := by
  refine (congrArg tally (Act.world_bind _ _ s)).trans ?_
  refine (Act.observed_bind ?_ s).trans (tally_shutdown p s)
  rintro ((e | f) | ⟨⟩)
  · exact (Act.preserves_log _ _ _).bind fun _ => Act.preserves_pure _
  · exact Act.preserves_pure _
  · exact Act.preserves_pure _

theorem tally_release :
    tally ((release (p.noted id)).run s).world =
      (s.lease.release, s.shutdowns + if s.lease.release.isDue then 1 else 0) := by
  change tally ((if s.lease.release.isDue then
    Lease.deferredShutdown (within (p.noted id).shutdown) else pure (.ok ())).run
      { s with lease := s.lease.release }).world = _
  split
  · exact tally_deferredShutdown p _
  · rfl

theorem close_answers :
    (close (p.noted id)).Ends s fun answer t =>
      t.lease = s.lease.close ∧ Step.Answers s.lease s.shutdowns answer t.shutdowns := by
  let closed : SharedProvider (Noted Provider.Event σ) := { s with lease := s.lease.close }
  change (s.lease.closing.carryOut (within (p.noted id).shutdown)).Ends closed fun answer t =>
    t.lease = s.lease.close ∧ Step.Answers s.lease s.shutdowns answer t.shutdowns
  unfold Lease.closing
  split_ifs with hclosed hnone
  · exact ⟨rfl, .already hclosed⟩
  · refine Act.Ends.bind (p := fun _ t => tally t = (s.lease.close, s.shutdowns + 1))
      (tally_shutdown p closed) ?_
    rintro result t ht
    obtain ⟨hlease, hdowns⟩ := Prod.mk.inj ht
    have hnow {answer : Except (Failure ProviderError) Bool} (hanswer : answer ≠ .ok false) :
        Step.Answers s.lease s.shutdowns answer t.shutdowns :=
      hdowns ▸ .now (Bool.not_eq_true _ ▸ hclosed) hnone hanswer
    cases result with
    | error e => exact ⟨hlease, hnow nofun⟩
    | ok => exact ⟨hlease, hnow nofun⟩
  · exact ⟨rfl, .deferred (Bool.not_eq_true _ ▸ hclosed) (Nat.pos_of_ne_zero hnone)⟩

end Tally

open Step

section Run

variable {p : Provider σ} {s t : SharedProvider (Noted Provider.Event σ)} {done : List Step}
  {m : Moment (Noted Provider.Event σ)} {ms before after : List (Moment (Noted Provider.Event σ))}

theorem Next.sound (hm : Next (p.noted id) s m) (h : Sound done s.lease s.shutdowns)
    (hstep : m.step.Follows done) : Sound (done ++ [m.step]) m.state.lease m.state.shutdowns := by
  cases hm with
  | acquire => exact h.acquire hstep
  | release =>
    obtain ⟨hlease, hdowns⟩ := Prod.mk.inj (tally_release p s)
    rw [hlease, hdowns]
    exact h.release hstep
  | close =>
    obtain ⟨hlease, hanswer⟩ := close_answers p s
    rw [hlease]
    exact h.close hanswer

theorem Walk.sound (hw : Walk (p.noted id) s ms t) (h : Sound done s.lease s.shutdowns)
    (horderly : Orderly done (ms.map Moment.step)) :
    Sound (done ++ ms.map Moment.step) t.lease t.shutdowns := by
  induction hw generalizing done with
  | nil s => simpa using h
  | cons hm _ ih =>
    have hrest := ih (hm.sound h horderly.1) horderly.2
    rwa [List.append_assoc] at hrest

/-- A provider that nobody holds and that has not been asked for anything. -/
def fresh (w : σ) : SharedProvider (Noted Provider.Event σ) :=
  { world := ⟨w, []⟩ }

/-- What is known before each step that is taken with a new provider. -/
theorem exists_before (p : Provider σ) (w : σ) (c : Client)
    (hm : c.moments (p.noted id) (fresh w) = before ++ m :: after)
    (horderly : Orderly [] (before.map Moment.step)) :
    ∃ s, Sound (before.map Moment.step) s.lease s.shutdowns ∧ Next (p.noted id) s m := by
  have hwalk := c.walk_moments (p.noted id) (fresh w)
  rw [hm] at hwalk
  obtain ⟨s, hbefore, _ | ⟨hnext, -⟩⟩ := walk_append.1 hwalk
  exact ⟨s, hbefore.sound sound_nil horderly, hnext⟩

end Run

/-- A block in which the provider is closed twice and something goes wrong, within another block
that takes no notice; then the provider is closed again. -/
def closingInside : Client :=
  .hold
    (.hold
      (.close fun _ => .close fun _ => .stop (.error (.fault (.outside .runtime "inside"))))
      fun _ => .stop (.ok ()))
    fun _ => .close fun _ => .stop (.ok ())

/-- The moments of it where the provider cannot be shut down. -/
def closingInsideMoments : List (Moment (Noted Provider.Event Scripted.ProviderScript)) :=
  closingInside.moments (Scripted.ProviderScript.provider.noted id)
    (fresh { shutdownFailure := some (.known ⟨.shutdown, "stuck"⟩) })

theorem length_closingInsideMoments : closingInsideMoments.length = 7 := by
  decide +kernel

theorem closingInsideMoments_split (i : Nat) (hi : i < closingInsideMoments.length) :
    closingInsideMoments = closingInsideMoments.take i ++
      closingInsideMoments[i] :: closingInsideMoments.drop (i + 1) := by
  rw [← List.drop_eq_getElem_cons hi, List.take_append_drop]

/-- After every step that is taken with a new provider, where only leases that are held are given
back and none is taken once the provider is closed and free: the leases are those taken and not
given back, and the provider has been shut down once if it is closed and free, and not at all
otherwise. -/
theorem shutdowns_of_orderly (p : Provider σ) (w : σ) (c : Client)
    {before after : List (Moment (Noted Provider.Event σ))} {m : Moment (Noted Provider.Event σ)}
    (hm : c.moments (p.noted id) (fresh w) = before ++ m :: after)
    (horderly : Orderly [] ((before ++ [m]).map Moment.step)) :
    let done := (before ++ [m]).map Moment.step
    m.state.lease.count + released done = acquired done ∧
      (m.state.lease.closed = true ↔ HasClosed done) ∧
      m.state.shutdowns =
        if m.state.lease.closed = true ∧ m.state.lease.count = 0 then 1 else 0 := by
  rw [List.map_append, orderly_append] at horderly
  obtain ⟨hbefore, hstep, -⟩ := horderly
  obtain ⟨s, hs, hnext⟩ := exists_before p w c hm hbefore
  have hsound := hnext.sound hs hstep
  intro done
  have hdone : done = before.map Moment.step ++ [m.step] := List.map_append
  rw [hdone]
  exact ⟨hsound.leases, hsound.closed, hsound.shutdowns⟩

theorem shutdowns_of_orderly_inside :
    ∃ before m after, closingInsideMoments = before ++ m :: after ∧
      Orderly [] ((before ++ [m]).map Moment.step) ∧ before.length = 5 ∧
      m.state.lease = ⟨0, true⟩ ∧ m.state.shutdowns = 1 := by
  have hlt : 5 < closingInsideMoments.length := by
    rw [length_closingInsideMoments]
    decide
  have horderly : Orderly [] ((closingInsideMoments.take 5 ++
      [closingInsideMoments[5]]).map Moment.step) := by
    decide +kernel +revert
  have hlease : closingInsideMoments[5].state.lease = ⟨0, true⟩ := by
    decide +kernel +revert
  have hm := closingInsideMoments_split 5 hlt
  obtain ⟨-, -, hdowns⟩ := shutdowns_of_orderly _ _ closingInside hm horderly
  rw [hlease] at hdowns
  exact ⟨_, _, _, hm, horderly, by decide +kernel, hlease, hdowns⟩

/-- Whether what a close answers is true: it says yes only when the provider has been shut down, and
no where a lease is held. -/
structure Truthful (done : List Step) (answer : Except (Failure ProviderError) Bool)
    (downs : Nat) : Prop where
  stopped : answer = .ok true → downs = 1
  waiting : released done < acquired done → answer = .ok false

/-- What a close answers is true but where an earlier close still waits for a lease. That one has
answered no; the later one answers yes, and the provider has not been shut down. -/
theorem truthful_iff (p : Provider σ) (w : σ) (c : Client)
    {before after : List (Moment (Noted Provider.Event σ))}
    {answer : Except (Failure ProviderError) Bool} {s : SharedProvider (Noted Provider.Event σ)}
    (hm : c.moments (p.noted id) (fresh w) = before ++ ⟨.close answer, s⟩ :: after)
    (horderly : Orderly [] (before.map Moment.step)) :
    let done := before.map Moment.step
    (Truthful done answer s.shutdowns ↔ ¬ (HasClosed done ∧ released done < acquired done)) ∧
      (HasClosed done → released done < acquired done →
        answer = .ok true ∧ s.shutdowns = 0 ∧ .close (.ok false) ∈ done) := by
  intro done
  obtain ⟨u, hu, hnext⟩ := exists_before p w c hm horderly
  have hanswer : Answers u.lease u.shutdowns answer s.shutdowns := by
    cases hnext with
    | close => exact (close_answers p u).2
  have hheld : released done < acquired done ↔ 0 < u.lease.count := by
    have hleases : u.lease.count + released done = acquired done := hu.leases
    omega
  have hclosed : HasClosed done ↔ u.lease.closed = true := hu.closed.symm
  have hdowns := hu.shutdowns
  rw [hheld, hclosed]
  generalize s.shutdowns = downs at hanswer ⊢
  cases hanswer with
  | already hbefore =>
    by_cases hnone : u.lease.count = 0
    · have hfree : ¬ 0 < u.lease.count := Nat.not_lt.2 (Nat.le_of_eq hnone)
      have htrue : Truthful done (.ok true) u.shutdowns :=
        ⟨fun _ => by rw [hdowns, if_pos ⟨hbefore, hnone⟩], fun h => absurd (hheld.1 h) hfree⟩
      exact ⟨iff_of_true htrue fun h => hfree h.2, fun _ h => absurd h hfree⟩
    · have hnever : u.shutdowns = 0 := by rw [hdowns, if_neg fun h => hnone h.2]
      have hfalse : ¬ Truthful done (.ok true) u.shutdowns := fun h =>
        absurd (h.stopped rfl) (by rw [hnever]; decide)
      exact ⟨iff_of_false hfalse fun h => h ⟨hbefore, Nat.pos_of_ne_zero hnone⟩,
        fun _ h => ⟨rfl, hnever, hu.deferred hbefore h⟩⟩
  | deferred hopen _ =>
    refine ⟨iff_of_true ⟨nofun, fun _ => rfl⟩ fun h => ?_, fun h => ?_⟩
    · simp [hopen] at h
    · simp [hopen] at h
  | now hopen hnone hyes =>
    have hfree : ¬ 0 < u.lease.count := Nat.not_lt.2 (Nat.le_of_eq hnone)
    have honce : u.shutdowns + 1 = 1 := by simp [hdowns, hopen]
    refine ⟨iff_of_true ⟨fun _ => honce, fun h => absurd (hheld.1 h) hfree⟩ fun h => hfree h.2,
      fun _ h => absurd h hfree⟩

theorem truthful_iff_inside :
    ∃ before s after, closingInsideMoments = before ++ ⟨.close (.ok true), s⟩ :: after ∧
      Orderly [] (before.map Moment.step) ∧ before.length = 6 ∧
      Truthful (before.map Moment.step) (.ok true) s.shutdowns := by
  have hlt : 6 < closingInsideMoments.length := by
    rw [length_closingInsideMoments]
    decide
  have hm : closingInsideMoments = closingInsideMoments.take 6 ++
      ⟨.close (.ok true), closingInsideMoments[6].state⟩ :: closingInsideMoments.drop 7 :=
    closingInsideMoments_split 6 hlt
  have horderly : Orderly [] ((closingInsideMoments.take 6).map Moment.step) := by
    decide +kernel
  have hfree : ¬ (HasClosed ((closingInsideMoments.take 6).map Moment.step) ∧
      released ((closingInsideMoments.take 6).map Moment.step) <
        acquired ((closingInsideMoments.take 6).map Moment.step)) := by
    decide +kernel
  obtain ⟨htruthful, -⟩ := truthful_iff _ _ closingInside hm horderly
  exact ⟨_, _, _, hm, horderly, by decide +kernel, htruthful.2 hfree⟩

/-- A provider that is closed twice while a lease is held: the second close answers yes, and the
provider has not been shut down. -/
theorem untruthful_of_closedTwice :
    let client : Client := .acquire (.close fun _ => .close fun _ => .release fun result =>
      .stop (result.mapError .fault))
    let moments := client.moments (Scripted.ProviderScript.provider.noted id) (fresh {})
    Orderly [] (moments.map Moment.step) ∧
      (moments[2]?.map fun m =>
        (m.step matches .close (.ok true), m.state.lease, m.state.shutdowns)) =
          some (true, ⟨1, true⟩, 0) := by
  decide +kernel

end SharedProvider

end ChatHost
