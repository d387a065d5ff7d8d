import ChatHost.Proofs.Host.Alike
import ChatHost.Proofs.Host.Parting

set_option autoImplicit false

/-!
One session in the traffic on a host, and the same session by itself. Of the moves of the traffic
only those of the session are kept: the call that starts it, the calls on its handle, and a closing
of it whenever it is reached in the closing of all sessions. On a host of its own they lead to the
same.
-/

namespace ChatHost

variable {σ γ α : Type}

/-- Whether what a move does outside is apart from a session: the ways to tools serve the session
apart, another check of a model's URL leaves it as it is, and what changes by itself does so
whatever others have done. -/
def Move.Apart (env : Surroundings σ) (view : σ → γ) (k : Handle) : Move σ → Prop
  | .ask op => op.Declares (env.Serves view k) ∧
    ∀ model c, op = .setModel model (some c) → ∀ parts, (c parts).Preserves view
  | .resume _ => True
  | .outside change => ∀ w v, view w = view v → view (change w) = view (change v)

/-- The handles of the sessions that an operation is to close one after the other. -/
def Operation.aims (h : Host σ) : Operation σ → List Handle
  | .closeAll => h.registry.handles
  | _ => []

/-- Whether what a call waits for is its business with the session under a handle: where several
sessions are closed, one of them is. -/
def Operation.Pending.concerns (k : Handle) : Operation.Pending → Bool
  | .closingEach j _ _ => j = k
  | _ => true

/-- The traffic on a host, and what is kept of it for one session. -/
structure Excerpt (σ : Type) where
  traffic : Traffic (Noted Host.Event σ)
  moves : List (Move σ) := []
  /-- How many calls are kept. -/
  count : Nat := 0
  /-- Which of the calls that are kept stands for a call. -/
  place : Nat → Option Nat := fun _ => none

namespace Excerpt

def keep (m : Move σ) (x : Excerpt σ) : Excerpt σ :=
  { x with moves := x.moves ++ [m] }

/-- One more call is kept, in the place of the one with the given number. -/
def keepCall (number : Nat) (op : Operation σ) (x : Excerpt σ) : Excerpt σ :=
  { x.keep (.ask op) with
    count := x.count + 1
    place := Function.update x.place number (some x.count) }

/-- The next step of a call is kept if the call is. -/
def keepResume (number : Nat) (x : Excerpt σ) : Excerpt σ :=
  match x.place number with
  | some place => x.keep (.resume place)
  | none => x

/-- What is kept of a move. The session is the one under the given handle, which is started by the
call with the given number. -/
def step (env : Surroundings σ) (first : Nat) (k : Handle) (x : Excerpt σ) (m : Move σ) :
    Excerpt σ :=
  let next : Excerpt σ := { x with traffic := x.traffic.step env.noted m.noted }
  match m with
  | .ask op =>
    let number := x.traffic.calls.length
    let q := ((op.noted.start env.noted).run x.traffic.host).result
    if number = first ∨ op.names k = true ∨ k ∈ q.passed (op.noted.aims x.traffic.host) then
      next.keepCall number op.alone
    else next
  | .resume number =>
    match x.traffic.calls[number]? with
    | some ⟨_, .waits p⟩ =>
      let q := ((Operation.resume env.noted p).run x.traffic.host).result
      let next := if p.concerns k then next.keepResume number else next
      if k ∈ q.passed p.ahead then next.keepCall number (.close 1) else next
    | some ⟨_, .ended _⟩ | none => next
  | .outside change => next.keep (.outside change)

/-- What is kept of some moves on a fresh host. -/
def ofMoves (env : Surroundings σ) (first : Nat) (k : Handle) (w : σ) (moves : List (Move σ)) :
    Excerpt σ :=
  moves.foldl (step env first k) { traffic := { host := { world := ⟨w, []⟩ } } }

variable {env : Surroundings σ} {first : Nat} {k : Handle} {x : Excerpt σ}

theorem step_traffic (env : Surroundings σ) (first : Nat) (k : Handle) (x : Excerpt σ)
    (m : Move σ) : (x.step env first k m).traffic = x.traffic.step env.noted m.noted := by
  cases m with
  | ask op =>
    simp only [step]
    split_ifs <;> rfl
  | outside change => rfl
  | resume number =>
    have hresume (y : Excerpt σ) : (y.keepResume number).traffic = y.traffic := by
      unfold keepResume
      split <;> rfl
    simp only [step]
    split
    · split_ifs <;> first | rfl | exact hresume _
    · rfl
    · rfl

theorem ofMoves_traffic (env : Surroundings σ) (first : Nat) (k : Handle) (w : σ)
    (moves : List (Move σ)) :
    (ofMoves env first k w moves).traffic = Traffic.observed env w moves := by
  have hfold (x : Excerpt σ) :
      (moves.foldl (step env first k) x).traffic =
        x.traffic.run env.noted (moves.map Move.noted) := by
    induction moves generalizing x with
    | nil => rfl
    | cons m moves ih =>
      rw [List.foldl_cons, ih, step_traffic]
      rfl
  exact hfold _

end Excerpt

/-- One place of a list is taken by something, and the rest stays. -/
def Replaced (l l' : List α) (i : Nat) (a : α) : Prop :=
  ∀ j, l'[j]? = if j = i then some a else l[j]?

theorem replaced_append (l : List α) (a : α) : Replaced l (l ++ [a]) l.length a := by
  intro j
  split_ifs with hj
  · rw [hj]
    exact List.getElem?_concat_length
  · rcases Nat.lt_or_gt_of_ne hj with hlt | hgt
    · exact List.getElem?_append_left hlt
    · rw [List.getElem?_eq_none (by simp; omega), List.getElem?_eq_none (by omega)]

theorem replaced_set {l : List α} {i : Nat} (hi : i < l.length) (a : α) :
    Replaced l (l.set i a) i a := by
  intro j
  split_ifs with hj
  · rw [hj]
    exact List.getElem?_set_self hi
  · exact List.getElem?_set_ne (Ne.symm hj)

theorem Replaced.again {l l' l'' : List α} {i : Nat} {a b : α} (h : Replaced l l' i a)
    (h' : Replaced l l'' i b) : Replaced l' l'' i b := by
  intro j
  rw [h' j, h j]
  split_ifs <;> rfl

/-- Whether a call is one of a session: the one that starts it, one on its handle, or one that is
closing it among others. -/
def Call.On (first : Nat) (k : Handle) (number : Nat) (c : Call σ) : Prop :=
  number = first ∨ c.operation.names k = true ∨ c.progress.isAt k = true

/-- Whether the calls of a session are the same on two hosts: each has its place among the calls on
the second host, no two have the same, and the call there has come as far. -/
structure Call.Paired (n : Nat) (k : Handle) (first : Nat) (calls : List (Call σ))
    (place : Nat → Option Nat) (calls' : List (Call σ)) : Prop where
  alike : ∀ i j, place i = some j →
    ∃ c c', calls[i]? = some c ∧ calls'[j]? = some c' ∧ Call.Alike n k c c'
  injective : ∀ i i' j, place i = some j → place i' = some j → i = i'
  own : ∀ (i : Nat) (c : Call σ), calls[i]? = some c → c.On first k i → ∃ j, place i = some j

namespace Call.Paired

variable {n : Nat} {k : Handle} {first : Nat} {calls next calls' : List (Call σ)}
  {place : Nat → Option Nat} {i j : Nat} {c c' : Call σ}

theorem lt_length (h : Paired n k first calls place calls') (hj : place i = some j) :
    j < calls'.length := by
  obtain ⟨-, c', -, hc', -⟩ := h.alike i j hj
  exact (List.getElem?_eq_some_iff.1 hc').1

theorem place_none (h : Paired n k first calls place calls') (hi : calls[i]? = none) :
    place i = none := by
  cases hplace : place i with
  | none => rfl
  | some j =>
    obtain ⟨c, -, hc, -⟩ := h.alike i j hplace
    cases hi.symm.trans hc

/-- A call that is none of the session takes a step. -/
theorem pass (h : Paired n k first calls place calls') (hnext : Replaced calls next i c)
    (hplace : place i = none) (hc : ¬ c.On first k i) : Paired n k first next place calls' where
  alike i' j' hj' := by
    have hne : i' ≠ i := by
      rintro rfl
      cases hplace.symm.trans hj'
    obtain ⟨d, d', hd, hd', halike⟩ := h.alike i' j' hj'
    exact ⟨d, d', (hnext i').trans ((if_neg hne).trans hd), hd', halike⟩
  injective := h.injective
  own i' d hd hon := by
    rw [hnext] at hd
    split_ifs at hd with hi
    · cases hd
      exact absurd (hi ▸ hon) hc
    · exact h.own i' d hd hon

/-- A call takes a step on both hosts. -/
theorem advance (h : Paired n k first calls place calls') (hnext : Replaced calls next i c)
    (hplace : place i = some j) (hc : Alike n k c c') :
    Paired n k first next place (calls'.set j c') where
  alike i' j' hj' := by
    by_cases hi : i' = i
    · subst hi
      cases hplace.symm.trans hj'
      exact ⟨c, c', (hnext i').trans (if_pos rfl), List.getElem?_set_self (h.lt_length hj'), hc⟩
    · obtain ⟨d, d', hd, hd', halike⟩ := h.alike i' j' hj'
      have hne : j ≠ j' := by
        rintro rfl
        exact hi (h.injective i' i j hj' hplace)
      exact ⟨d, d', (hnext i').trans ((if_neg hi).trans hd),
        (List.getElem?_set_ne hne).trans hd', halike⟩
  injective := h.injective
  own i' d hd hon := by
    rw [hnext] at hd
    split_ifs at hd with hi
    · exact ⟨j, hi ▸ hplace⟩
    · exact h.own i' d hd hon

/-- A call takes a step that the one in its place does not take. -/
theorem stay (h : Paired n k first calls place calls') (hnext : Replaced calls next i c)
    (hplace : place i = some j) (hc' : calls'[j]? = some c') (hc : Alike n k c c') :
    Paired n k first next place calls' := by
  obtain ⟨hlt, hget⟩ := List.getElem?_eq_some_iff.1 hc'
  have hadvance := h.advance hnext hplace hc
  rwa [← hget, List.set_getElem_self] at hadvance

/-- A call takes a step that is the first one on the second host. -/
theorem ask (h : Paired n k first calls place calls') (hnext : Replaced calls next i c)
    (hc : Alike n k c c') :
    Paired n k first next (Function.update place i (some calls'.length)) (calls' ++ [c']) where
  alike i' j' hj' := by
    by_cases hi : i' = i
    · subst hi
      rw [Function.update_self] at hj'
      cases hj'
      exact ⟨c, c', (hnext i').trans (if_pos rfl), List.getElem?_concat_length, hc⟩
    · rw [Function.update_of_ne hi] at hj'
      obtain ⟨d, d', hd, hd', halike⟩ := h.alike i' j' hj'
      exact ⟨d, d', (hnext i').trans ((if_neg hi).trans hd),
        (List.getElem?_append_left (h.lt_length hj')).trans hd', halike⟩
  injective i₁ i₂ j' h₁ h₂ := by
    by_cases hi₁ : i₁ = i
    · by_cases hi₂ : i₂ = i
      · exact hi₁.trans hi₂.symm
      · subst hi₁
        rw [Function.update_self] at h₁
        rw [Function.update_of_ne hi₂] at h₂
        cases h₁
        exact absurd (h.lt_length h₂) (Nat.lt_irrefl _)
    · by_cases hi₂ : i₂ = i
      · subst hi₂
        rw [Function.update_of_ne hi₁] at h₁
        rw [Function.update_self] at h₂
        cases h₂
        exact absurd (h.lt_length h₁) (Nat.lt_irrefl _)
      · rw [Function.update_of_ne hi₁] at h₁
        rw [Function.update_of_ne hi₂] at h₂
        exact h.injective i₁ i₂ j' h₁ h₂
  own i' d hd hon := by
    by_cases hi : i' = i
    · subst hi
      exact ⟨calls'.length, Function.update_self ..⟩
    · rw [hnext, if_neg hi] at hd
      rw [Function.update_of_ne hi]
      exact h.own i' d hd hon

/-- What a call on the session comes to, it comes to on the second host as well. -/
theorem progress (h : Paired n k first calls place calls') (hi : calls[i]? = some c)
    (hon : i = first ∨ c.operation.names k = true) (hop : c.operation ≠ .closeAll) :
    ∃ j q, place i = some j ∧ calls'[j]? = some ⟨c.operation.alone, q⟩ ∧
      Operation.Progress.Alike n k c.progress q := by
  obtain ⟨j, hj⟩ := h.own i c hi (hon.imp_right .inl)
  obtain ⟨c₁, c', hc₁, hc', halike⟩ := h.alike i j hj
  cases hi.symm.trans hc₁
  cases halike with
  | own op hq => exact ⟨j, _, hj, hc', hq⟩
  | closing left => exact absurd rfl hop
  | closed hat result => exact absurd rfl hop

end Call.Paired

end ChatHost
