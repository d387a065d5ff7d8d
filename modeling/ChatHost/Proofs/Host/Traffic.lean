import ChatHost.Host.Operation

set_option autoImplicit false

/-!
Calls on one host that go on at the same time. A call waits between two of its steps; meanwhile
other calls may take steps, new calls may be made, and the outside world may change by itself.
-/

namespace ChatHost

/-- A call on a host: the operation that is asked for, and how far it has come. -/
structure Call (σ : Type) where
  operation : Operation σ
  progress : Operation.Progress

inductive Move (σ : Type) where
  /-- A call is made, and takes its first step. -/
  | ask (operation : Operation σ)
  /-- The call of a given number takes its next step, if it waits for one. -/
  | resume (number : Nat)
  /-- The outside world changes. -/
  | outside (change : σ → σ)

/-- A host and the calls on it, in the order in which they were made. -/
structure Traffic (σ : Type) where
  host : Host σ
  calls : List (Call σ) := []

namespace Traffic

variable {σ : Type}

def step (env : Surroundings σ) (t : Traffic σ) : Move σ → Traffic σ
  | .ask operation =>
    let out := (operation.start env).run t.host
    ⟨out.world, t.calls ++ [⟨operation, out.result⟩]⟩
  | .resume number =>
    match t.calls[number]? with
    | some ⟨operation, .waits p⟩ =>
      let out := (Operation.resume env p).run t.host
      ⟨out.world, t.calls.set number ⟨operation, out.result⟩⟩
    | some ⟨_, .ended _⟩ | none => t
  | .outside change => { t with host := { t.host with world := change t.host.world } }

theorem step_resume_none {env : Surroundings σ} {t : Traffic σ} {number : Nat}
    (h : t.calls[number]? = none) : t.step env (.resume number) = t := by
  simp only [step, h]

theorem step_resume_ended {env : Surroundings σ} {t : Traffic σ} {number : Nat}
    {operation : Operation σ} {result : Except (Failure HostError) Operation.Answer}
    (h : t.calls[number]? = some ⟨operation, .ended result⟩) :
    t.step env (.resume number) = t := by
  simp only [step, h]

theorem step_resume_waits {env : Surroundings σ} {t : Traffic σ} {number : Nat}
    {operation : Operation σ} {p : Operation.Pending}
    (h : t.calls[number]? = some ⟨operation, .waits p⟩) :
    t.step env (.resume number) =
      ⟨((Operation.resume env p).run t.host).world,
        t.calls.set number ⟨operation, ((Operation.resume env p).run t.host).result⟩⟩ := by
  simp only [step, h]

theorem step_resume_cases (env : Surroundings σ) (t : Traffic σ) (number : Nat) :
    t.step env (.resume number) = t ∨ ∃ op p, t.calls[number]? = some ⟨op, .waits p⟩ := by
  cases hc : t.calls[number]? with
  | none => exact .inl (step_resume_none hc)
  | some c =>
    obtain ⟨op, result | p⟩ := c
    · exact .inl (step_resume_ended hc)
    · exact .inr ⟨op, p, rfl⟩

theorem step_resume_of_ne (env : Surroundings σ) (t : Traffic σ) {number i : Nat}
    (h : number ≠ i) : (t.step env (.resume number)).calls[i]? = t.calls[i]? := by
  rcases step_resume_cases env t number with hsame | ⟨op, p, hc⟩
  · rw [hsame]
  · rw [step_resume_waits hc]
    exact List.getElem?_set_ne h

theorem length_resume (env : Surroundings σ) (t : Traffic σ) (number : Nat) :
    (t.step env (.resume number)).calls.length = t.calls.length := by
  rcases step_resume_cases env t number with hsame | ⟨op, p, hc⟩
  · rw [hsame]
  · rw [step_resume_waits hc]
    exact List.length_set

def run (env : Surroundings σ) (t : Traffic σ) (moves : List (Move σ)) : Traffic σ :=
  moves.foldl (step env) t

theorem run_append (env : Surroundings σ) (t : Traffic σ) (before after : List (Move σ)) :
    t.run env (before ++ after) = (t.run env before).run env after :=
  List.foldl_append

end Traffic

end ChatHost
