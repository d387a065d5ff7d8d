import ChatHost.Proofs.Provider.Completion
import ChatHost.Proofs.Provider.Watched

set_option autoImplicit false

/-!
How often a completion is tried: as long as the connection fails and there is a time to wait, up to
a number of times. A pause lies between two tries, and the last try alone decides.
-/

namespace ChatHost

namespace Completion

variable {σ : Type} (attempt : Act σ (Except Trouble Json)) (wait : Nat → Except Fault Number)
  (sleep : Number → Act σ Unit) (w : σ)

/-- A try that failed for want of a connection. -/
def Broken (outcome : Except Trouble Json) : Prop :=
  ∃ message, outcome = .error (.connection message)

/-- The world before a try, when there was a pause after each try before it. Where there is no time
to wait, nothing more happens. -/
def worldBefore : Nat → σ
  | 0 => w
  | i + 1 =>
    match wait i with
    | .ok time => ((sleep time).run (attempt.run (worldBefore i)).world).world
    | .error _ => worldBefore i

def outcomeOf (i : Nat) : Except Trouble Json :=
  (attempt.run (worldBefore attempt wait sleep w i)).result

/-- The number of the last try: that of the first one that did not break or has no time to wait
after it, or of the last one that is left. -/
structure IsLast (outcome : Nat → Except Trouble Json) (wait : Nat → Except Fault Number)
    (first most last : Nat) : Prop where
  first_le : first ≤ last
  le_most : last ≤ most
  broken : ∀ i, first ≤ i → i < last → Broken (outcome i)
  waited : ∀ i, first ≤ i → i < last → ∃ time, wait i = .ok time
  settled : last = most ∨ ¬Broken (outcome last) ∨ ∃ f, wait last = .error f

/-- What the tries up to the last come to: the outcome of the last, or the fault in place of a time
to wait for the next. -/
def concluded (outcome : Nat → Except Trouble Json) (wait : Nat → Except Fault Number)
    (most last : Nat) : Except Trouble Json :=
  match outcome last with
  | .error (.connection message) =>
    match wait last with
    | .error f => if last < most then .error (.fault f) else .error (.connection message)
    | .ok _ => .error (.connection message)
  | outcome => outcome

theorem concluded_most (outcome : Nat → Except Trouble Json) (most : Nat) :
    concluded outcome wait most most = outcome most := by
  unfold concluded
  split
  · rename_i message h
    split
    · rw [if_neg (Nat.lt_irrefl most), h]
    · exact h.symm
  · rfl

theorem concluded_of_not_broken {outcome : Nat → Except Trouble Json} {last : Nat}
    (h : ¬Broken (outcome last)) (most : Nat) :
    concluded outcome wait most last = outcome last := by
  unfold concluded
  split
  · rename_i message hmessage
    exact absurd ⟨message, hmessage⟩ h
  · rfl

/-- Tries from one of them on end with the last. -/
theorem tryFor_ends_last (left tries : Nat) :
    ∃ last, IsLast (outcomeOf attempt wait sleep w) wait tries (tries + left) last ∧
      (tryFor attempt wait sleep left tries).Ends (worldBefore attempt wait sleep w tries)
        fun outcome v =>
          outcome = concluded (outcomeOf attempt wait sleep w) wait (tries + left) last ∧
            v = (attempt.run (worldBefore attempt wait sleep w last)).world := by
  induction left generalizing tries with
  | zero =>
    refine ⟨tries, ⟨Nat.le_refl _, Nat.le_refl _, by omega, by omega, .inl rfl⟩, ?_, rfl⟩
    rw [Nat.add_zero, concluded_most]
    rfl
  | succ left ih =>
    have htried : attempt.Ends (worldBefore attempt wait sleep w tries) fun x v =>
        x = outcomeOf attempt wait sleep w tries ∧
          v = (attempt.run (worldBefore attempt wait sleep w tries)).world := ⟨rfl, rfl⟩
    by_cases hbroken : Broken (outcomeOf attempt wait sleep w tries)
    · have hbroken' := hbroken
      obtain ⟨message, hmessage⟩ := hbroken'
      rw [hmessage] at htried
      cases hwait : wait tries with
      | error f =>
        refine ⟨tries, ⟨Nat.le_refl _, by omega, by omega, by omega, .inr (.inr ⟨f, hwait⟩)⟩, ?_⟩
        refine htried.bind ?_
        rintro x v ⟨rfl, rfl⟩
        dsimp only
        rw [hwait]
        refine ⟨?_, rfl⟩
        simp only [concluded, hmessage, hwait]
        exact (if_pos (by omega)).symm
      | ok time =>
        obtain ⟨last, hlast, hends⟩ := ih (tries + 1)
        have hmost : tries + 1 + left = tries + (left + 1) := by omega
        rw [hmost] at hlast hends
        refine ⟨last, ⟨?_, hlast.le_most, fun i hi hlt => ?_, fun i hi hlt => ?_, hlast.settled⟩,
          ?_⟩
        · have := hlast.first_le
          omega
        · rcases Nat.eq_or_lt_of_le hi with rfl | hi
          · exact hbroken
          · exact hlast.broken i hi hlt
        · rcases Nat.eq_or_lt_of_le hi with rfl | hi
          · exact ⟨time, hwait⟩
          · exact hlast.waited i hi hlt
        · rw [worldBefore, hwait] at hends
          refine htried.bind ?_
          rintro x v ⟨rfl, rfl⟩
          dsimp only
          rw [hwait]
          exact hends
    · refine ⟨tries, ⟨Nat.le_refl _, by omega, by omega, by omega, .inr (.inl hbroken)⟩, ?_⟩
      refine htried.bind ?_
      rintro x v ⟨hx, rfl⟩
      rw [concluded_of_not_broken wait hbroken]
      split
      · rename_i message
        exact absurd ⟨message, hx.symm⟩ hbroken
      · exact ⟨hx, rfl⟩

def reply (outcome : Except Trouble Json) : Except (Failure ProviderError) (Message String) :=
  match outcome with
  | .ok answer => read answer
  | .error trouble => .error trouble.failure

/-- The times that some pauses take, as far as there is a time for each. -/
def timesOf (wait : Nat → Except Fault Number) (pauses : Nat) : List Number :=
  (List.range pauses).filterMap fun i => (wait i).toOption

theorem timesOf_succ (pauses : Nat) :
    timesOf wait (pauses + 1) = timesOf wait pauses ++ (wait pauses).toOption.toList := by
  rw [timesOf, List.range_succ, List.filterMap_append, ← timesOf]
  cases h : wait pauses <;> simp [h, Except.toOption]

end Completion

namespace Llamafile

open Completion

variable {σ : Type} (l : Llamafile) (m : Machine σ) (config : ServerConfig) (q : Request)

/-- What a try for a completion comes to, when it is made. -/
def tried (w : σ) : Nat → Except Trouble Json :=
  outcomeOf (m.complete config (payload q)) l.retries.wait m.sleep w

/-- The notes on tries with pauses of some times between them: one try more than pauses. -/
def courseOf (times : List Number) : List Machine.Event :=
  (times.flatMap fun time => [.complete config (payload q), .sleep time]) ++
    [.complete config (payload q)]

variable {l m config q}

theorem worldBefore_watched (n : Noted Machine.Event σ) (i : Nat) :
    worldBefore (m.watched.complete config (payload q)) l.retries.wait m.watched.sleep n i =
      ⟨worldBefore (m.complete config (payload q)) l.retries.wait m.sleep n.world i,
        n.notes ++ (timesOf l.retries.wait i).flatMap fun time =>
          [.complete config (payload q), .sleep time]⟩ := by
  induction i with
  | zero => simp [worldBefore, timesOf]
  | succ i ih =>
    rw [worldBefore, worldBefore, timesOf_succ, ih]
    cases l.retries.wait i with
    | error f => simp [Except.toOption]
    | ok time =>
      have hnotes : n.notes ++ ((timesOf l.retries.wait i).flatMap fun time =>
            [.complete config (payload q), .sleep time]) ++
              [.complete config (payload q)] ++ [.sleep time] =
          n.notes ++ (timesOf l.retries.wait i ++ [time]).flatMap fun time =>
            [Machine.Event.complete config (payload q), .sleep time] := by
        simp
      exact congrArg (Noted.mk _) hnotes

theorem tried_watched (n : Noted Machine.Event σ) (i : Nat) :
    l.tried m.watched config q n i = l.tried m config q n.world i := by
  unfold tried outcomeOf
  rw [worldBefore_watched]
  rfl

theorem chat_ends {r : Running σ} (hconfig : r.status.config = some config)
    (hstage : r.status.stage = .serving)
    {post : Except (Failure ProviderError) (Message String) → σ → Prop}
    (h : (l.complete m config q).Ends r.world post) :
    (l.chat m q).Ends r fun result r' => r'.status = r.status ∧ post result r'.world := by
  obtain ⟨⟨stage, config', process⟩, w⟩ := r
  subst hconfig hstage
  exact ⟨rfl, h⟩

def replied (l : Llamafile) (m : Machine σ) (config : ServerConfig) (q : Request) (w : σ)
    (last : Nat) : Except (Failure ProviderError) (Message String) :=
  reply (concluded (l.tried m config q w) l.retries.wait (l.retries.count - 1) last)

/-- A request to a provider that serves is tried up to the last of the tries, which decides. -/
theorem chat_course {r : Running (Noted Machine.Event σ)} (hconfig : r.status.config = some config)
    (hstage : r.status.stage = .serving) :
    ∃ last, IsLast (l.tried m config q r.world.world) l.retries.wait 0 (l.retries.count - 1) last ∧
      (l.chat m.watched q).Ends r fun result r' =>
        r'.status = r.status ∧ result = l.replied m config q r.world.world last ∧
          r'.world.notes = r.world.notes ++ courseOf config q (timesOf l.retries.wait last) := by
  obtain ⟨last, hlast, hends⟩ :=
    tryFor_ends_last (m.watched.complete config (payload q)) l.retries.wait m.watched.sleep r.world
      (l.retries.count - 1) 0
  have htried : outcomeOf (m.watched.complete config (payload q)) l.retries.wait m.watched.sleep
      r.world = l.tried m config q r.world.world := funext fun i => tried_watched r.world i
  rw [htried, Nat.zero_add] at hlast hends
  refine ⟨last, hlast, ?_⟩
  have hnotes : ((m.watched.complete config (payload q)).run
      (worldBefore (m.watched.complete config (payload q)) l.retries.wait m.watched.sleep r.world
        last)).world.notes =
      r.world.notes ++ courseOf config q (timesOf l.retries.wait last) := by
    rw [worldBefore_watched, courseOf, ← List.append_assoc]
    rfl
  have hcomplete : (l.complete m.watched config q).Ends r.world fun result n =>
      result = l.replied m config q r.world.world last ∧
        n.notes = r.world.notes ++ courseOf config q (timesOf l.retries.wait last) := by
    apply Act.Ends.bind hends
    rintro outcome v ⟨rfl, rfl⟩
    unfold replied
    cases concluded (l.tried m config q r.world.world) l.retries.wait (l.retries.count - 1)
      last with
    | ok answer => exact ⟨rfl, hnotes⟩
    | error trouble => exact ⟨rfl, hnotes⟩
  exact chat_ends hconfig hstage hcomplete

end Llamafile
end ChatHost
