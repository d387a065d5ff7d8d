import ChatHost.Log

set_option autoImplicit false

/-!
Reasoning about steps: what a step comes to from a given world, what it leaves as it is, and how
both go through the ways in which steps are put together.
-/

namespace ChatHost.Act

variable {σ τ ε α β γ : Type}

/-- Whether the result of a step and the world after it satisfy a condition. -/
def Ends (a : Act σ α) (w : σ) (post : α → σ → Prop) : Prop :=
  post (a.run w).result (a.run w).world

theorem Ends.imp {a : Act σ α} {w : σ} {p q : α → σ → Prop} (h : a.Ends w p)
    (hpq : ∀ x v, p x v → q x v) : a.Ends w q :=
  hpq _ _ h

theorem ends_pure (x : α) (w : σ) (p : α → σ → Prop) :
    Ends (pure x) w p ↔ p x w :=
  Iff.rfl

theorem ends_bind (a : Act σ α) (f : α → Act σ β) (w : σ) (p : β → σ → Prop) :
    Ends (a >>= f) w p ↔ a.Ends w fun x v => (f x).Ends v p :=
  Iff.rfl

theorem ends_ofWorld (f : σ → α × σ) (w : σ) (p : α → σ → Prop) :
    Ends (ofWorld f) w p ↔ p (f w).1 (f w).2 :=
  Iff.rfl

theorem ends_log (level : Level) (logger message : String) (w : σ) (p : Unit → σ → Prop) :
    Ends (log level logger message) w p ↔ p () w :=
  Iff.rfl

theorem ends_zoom (get : τ → σ) (set : σ → τ → τ) (a : Act σ α) (w : τ) (p : α → τ → Prop) :
    Ends (a.zoom get set) w p ↔ a.Ends (get w) fun x v => p x (set v w) :=
  Iff.rfl

/-- A step after another one starts with what the first is known to end with. -/
theorem Ends.bind {a : Act σ α} {f : α → Act σ β} {w : σ} {p : α → σ → Prop} {q : β → σ → Prop}
    (h : a.Ends w p) (hf : ∀ x v, p x v → (f x).Ends v q) : Ends (a >>= f) w q :=
  hf _ _ h

/-- The same for a step that is left out after an error. -/
theorem Ends.andThen {a : Act σ (Except ε α)} {f : α → Act σ (Except ε β)} {w : σ}
    {p : Except ε α → σ → Prop} {q : Except ε β → σ → Prop} (h : a.Ends w p)
    (hok : ∀ x v, p (.ok x) v → (f x).Ends v q) (herror : ∀ e v, p (.error e) v → q (.error e) v) :
    Ends (a.andThen f) w q := by
  refine Ends.bind h ?_
  rintro (e | x) v hv
  · exact herror e v hv
  · exact hok x v hv

/-- Whether the result of a step, the world after it and the records that it writes satisfy a
condition. -/
def EndsWith (a : Act σ α) (w : σ) (post : α → σ → List LogRecord → Prop) : Prop :=
  post (a.run w).result (a.run w).world (a.run w).records

theorem endsWith_log (level : Level) (logger message : String) (f : Unit → Act σ α) (w : σ)
    (p : α → σ → List LogRecord → Prop) :
    EndsWith (log level logger message >>= f) w p ↔
      (f ()).EndsWith w fun x v records => p x v (⟨level, logger, message⟩ :: records) :=
  Iff.rfl

theorem EndsWith.bind {a : Act σ α} {f : α → Act σ β} {w : σ}
    {p : α → σ → List LogRecord → Prop} {q : β → σ → List LogRecord → Prop} (h : a.EndsWith w p)
    (hf : ∀ x v before, p x v before →
      (f x).EndsWith v fun y u records => q y u (before ++ records)) : (a >>= f).EndsWith w q :=
  hf _ _ _ h

/-- A condition on records that more of them in front do not change goes through the steps
before. -/
theorem Ends.bindWith {a : Act σ α} {f : α → Act σ β} {w : σ} {p : α → σ → Prop}
    {q : β → σ → List LogRecord → Prop}
    (hq : ∀ x v before records, q x v records → q x v (before ++ records)) (h : a.Ends w p)
    (hf : ∀ x v, p x v → (f x).EndsWith v q) : (a >>= f).EndsWith w q :=
  hq _ _ _ _ (hf _ _ h)

theorem Ends.andThenWith {a : Act σ (Except ε α)} {f : α → Act σ (Except ε β)} {w : σ}
    {p : Except ε α → σ → Prop} {q : Except ε β → σ → List LogRecord → Prop}
    (hq : ∀ x v before records, q x v records → q x v (before ++ records)) (h : a.Ends w p)
    (hok : ∀ x v, p (.ok x) v → (f x).EndsWith v q)
    (herror : ∀ e v, p (.error e) v → q (.error e) v []) : (a.andThen f).EndsWith w q := by
  refine Ends.bindWith hq h ?_
  rintro (e | x) v hv
  · exact herror e v hv
  · exact hok x v hv

theorem run_bind (a : Act σ α) (g : α → Act σ β) (w : σ) :
    (a >>= g).run w =
      ⟨((g (a.run w).result).run (a.run w).world).result,
        ((g (a.run w).result).run (a.run w).world).world,
        (a.run w).records ++ ((g (a.run w).result).run (a.run w).world).records⟩ :=
  rfl

theorem result_bind (a : Act σ α) (g : α → Act σ β) (w : σ) :
    ((a >>= g).run w).result = ((g (a.run w).result).run (a.run w).world).result :=
  rfl

theorem result_andThen_ok {a : Act σ (Except ε α)} {f : α → Act σ (Except ε β)} {w : σ} {y : β} :
    ((a.andThen f).run w).result = .ok y ↔
      ∃ x, (a.run w).result = .ok x ∧ ((f x).run (a.run w).world).result = .ok y := by
  unfold andThen
  rw [result_bind]
  cases hx : (a.run w).result with
  | error e => simp [Act.run, pure, Act.pure]
  | ok x => simp

theorem world_bind (a : Act σ α) (g : α → Act σ β) (w : σ) :
    ((a >>= g).run w).world = ((g (a.run w).result).run (a.run w).world).world :=
  rfl

/-- Whether a step leaves what is observed of the world as it is. -/
def Preserves (f : σ → γ) (a : Act σ α) : Prop :=
  ∀ w, f (a.run w).world = f w

variable {f : σ → γ}

theorem Preserves.ends {a : Act σ α} (h : a.Preserves f) (w : σ) :
    a.Ends w fun _ v => f v = f w :=
  h w

theorem preserves_pure (x : α) : Preserves f (pure x : Act σ α) :=
  fun _ => rfl

theorem preserves_write (records : List LogRecord) : (write records).Preserves f :=
  fun _ => rfl

theorem preserves_log (level : Level) (logger message : String) :
    (log level logger message).Preserves f :=
  fun _ => rfl

theorem Preserves.bind {a : Act σ α} {g : α → Act σ β} (ha : a.Preserves f)
    (hg : ∀ x, (g x).Preserves f) : (a >>= g).Preserves f :=
  fun w => (hg _ _).trans (ha w)

/-- What is observed after a step and one that preserves it. -/
theorem observed_bind {a : Act σ α} {g : α → Act σ β} (hg : ∀ x, (g x).Preserves f) (w : σ) :
    f ((a >>= g).run w).world = f (a.run w).world :=
  hg _ _

theorem Preserves.andThen {a : Act σ (Except ε α)} {g : α → Act σ (Except ε β)}
    (ha : a.Preserves f) (hg : ∀ x, (g x).Preserves f) : (a.andThen g).Preserves f := by
  refine ha.bind ?_
  rintro (e | x)
  · exact preserves_pure _
  · exact hg x

/-- Whether a property of steps goes through the ways in which steps are put together. -/
structure Closed (p : (α : Type) → Act σ α → Prop) : Prop where
  pure {α : Type} (x : α) : p α (Pure.pure x)
  write (records : List LogRecord) : p Unit (Act.write records)
  bind {α β : Type} {a : Act σ α} {f : α → Act σ β} (ha : p α a) (hf : ∀ x, p β (f x)) :
    p β (a >>= f)

theorem Closed.andThen {p : (α : Type) → Act σ α → Prop} (hp : Closed p)
    {a : Act σ (Except ε α)} {f : α → Act σ (Except ε β)} (ha : p _ a) (hf : ∀ x, p _ (f x)) :
    p _ (a.andThen f) := by
  refine hp.bind ha fun result => ?_
  cases result with
  | error e => exact hp.pure _
  | ok x => exact hf x

theorem closed_preserves (f : σ → γ) : Closed fun α (a : Act σ α) => a.Preserves f where
  pure := preserves_pure
  write := preserves_write
  bind := Preserves.bind

end ChatHost.Act
