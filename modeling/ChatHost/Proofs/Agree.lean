import ChatHost.Proofs.Act

set_option autoImplicit false

/-!
Two steps side by side, each in a world of its own: they agree when from worlds that are related
they come to related results and leave the worlds related. And what holds of the parts of a step and
goes through the ways in which steps are put together holds of the step.
-/

namespace ChatHost

/-- Whether two outcomes are both errors or neither, and related as such. -/
inductive Matched {ε δ α β : Type} (e : ε → δ → Prop) (q : α → β → Prop) :
    Except ε α → Except δ β → Prop
  | ok {x : α} {y : β} (h : q x y) : Matched e q (.ok x) (.ok y)
  | error {x : ε} {y : δ} (h : e x y) : Matched e q (.error x) (.error y)

theorem Matched.of_eq {ε α : Type} {e : ε → ε → Prop} (he : ∀ x, e x x) {x y : Except ε α}
    (h : x = y) : Matched e Eq x y := by
  subst h
  cases x with
  | ok => exact .ok rfl
  | error x => exact .error (he x)

namespace Act

variable {σ τ ε δ α β α' β' γ : Type}

/-- Whether two steps go the same way in worlds that are related. -/
def Agree (r : σ → τ → Prop) (q : α → β → Prop) (a : Act σ α) (b : Act τ β) : Prop :=
  ∀ w v, r w v → q (a.run w).result (b.run v).result ∧ r (a.run w).world (b.run v).world

variable {r : σ → τ → Prop} {q : α → β → Prop} {e : ε → δ → Prop}

theorem Agree.imp {a : Act σ α} {b : Act τ β} (h : Agree r q a b) {p : α → β → Prop}
    (hqp : ∀ x y, q x y → p x y) : Agree r p a b :=
  fun w v hw => (h w v hw).imp_left (hqp _ _)

theorem agree_pure {x : α} {y : β} (h : q x y) : Agree r q (pure x) (pure y) :=
  fun _ _ hw => ⟨h, hw⟩

theorem agree_write (xs ys : List LogRecord) :
    Agree r (fun _ _ => True) (write xs) (write ys) :=
  fun _ _ hw => ⟨trivial, hw⟩

theorem agree_log (l m : Level) (x y s t : String) :
    Agree r (fun _ _ => True) (log l x s) (log m y t) :=
  agree_write _ _

theorem Agree.bind {a : Act σ α} {b : Act τ β} {f : α → Act σ α'} {g : β → Act τ β'}
    {p : α' → β' → Prop} (h : Agree r q a b) (hfg : ∀ x y, q x y → Agree r p (f x) (g y)) :
    Agree r p (a >>= f) (b >>= g) := by
  intro w v hw
  have hfirst := h w v hw
  exact hfg _ _ hfirst.1 _ _ hfirst.2

theorem Agree.andThen {a : Act σ (Except ε α)} {b : Act τ (Except δ β)}
    {f : α → Act σ (Except ε α')} {g : β → Act τ (Except δ β')} {p : α' → β' → Prop}
    (h : Agree r (Matched e q) a b)
    (hfg : ∀ x y, q x y → Agree r (Matched e p) (f x) (g y)) :
    Agree r (Matched e p) (a.andThen f) (b.andThen g) := by
  refine h.bind fun x y hxy => ?_
  cases hxy with
  | ok hxy => exact hfg _ _ hxy
  | error he => exact agree_pure (.error he)

theorem Agree.bind_ends {a : Act σ α} {b : Act τ β} {f : α → Act σ α'} {g : β → Act τ β'}
    {post : α' → σ → β' → τ → Prop} (h : Agree r q a b) {w : σ} {v : τ} (hw : r w v)
    (hfg : ∀ x y w' v', q x y → r w' v' →
      (f x).Ends w' fun z w'' => (g y).Ends v' fun z' v'' => post z w'' z' v'') :
    (a >>= f).Ends w fun z w'' => (b >>= g).Ends v fun z' v'' => post z w'' z' v'' :=
  hfg _ _ _ _ (h w v hw).1 (h w v hw).2

theorem ends_andThen_of_ok {a : Act σ (Except ε α)} {f : α → Act σ (Except ε α')} {w : σ} {x : α}
    {p : Except ε α' → σ → Prop} (hx : (a.run w).result = .ok x)
    (hf : (f x).Ends (a.run w).world p) : (a.andThen f).Ends w p := by
  unfold Act.andThen
  rw [ends_bind]
  unfold Ends
  rw [hx]
  exact hf

theorem ends_andThen_of_error {a : Act σ (Except ε α)} {f : α → Act σ (Except ε α')} {w : σ} {x : ε}
    {p : Except ε α' → σ → Prop} (hx : (a.run w).result = .error x)
    (hp : p (.error x) (a.run w).world) : (a.andThen f).Ends w p := by
  unfold Act.andThen
  rw [ends_bind]
  unfold Ends
  rw [hx]
  exact hp

theorem Agree.andThen_ends {a : Act σ (Except ε α)} {b : Act τ (Except δ β)}
    {f : α → Act σ (Except ε α')} {g : β → Act τ (Except δ β')}
    {post : Except ε α' → σ → Except δ β' → τ → Prop} (h : Agree r (Matched e q) a b) {w : σ}
    {v : τ} (hw : r w v)
    (hok : ∀ x y w' v', q x y → r w' v' →
      (f x).Ends w' fun z w'' => (g y).Ends v' fun z' v'' => post z w'' z' v'')
    (herror : ∀ x y w' v', post (.error x) w' (.error y) v') :
    (a.andThen f).Ends w fun z w'' => (b.andThen g).Ends v fun z' v'' => post z w'' z' v'' := by
  obtain ⟨hresult, hworld⟩ := h w v hw
  generalize hx : (a.run w).result = x at hresult
  generalize hy : (b.run v).result = y at hresult
  cases hresult with
  | ok hq =>
    refine ends_andThen_of_ok hx ?_
    have hsecond := hok _ _ _ _ hq hworld
    exact Ends.imp hsecond fun z w'' hz => ends_andThen_of_ok hy hz
  | error he =>
    refine ends_andThen_of_error hx (ends_andThen_of_error hy ?_)
    exact herror _ _ _ _

theorem Agree.keeping {a : Act σ α} {b : Act τ β} (h : Agree r q a b) {f : σ → γ}
    (ha : a.Preserves f) (x : γ) : Agree (fun w v => r w v ∧ f w = x) q a b := by
  intro w v hw
  obtain ⟨hresult, hworld⟩ := h w v hw.1
  exact ⟨hresult, hworld, (ha w).trans hw.2⟩

/-- Whether what is observed of the world determines what a step comes to and what is observed after
it. -/
def Sees (f : σ → γ) (a : Act σ α) : Prop :=
  Agree (fun w v => f w = f v) Eq a a

theorem closed_agree (r : σ → σ → Prop) : Closed fun α (a : Act σ α) => Agree r Eq a a where
  pure _ := agree_pure rfl
  write records := (agree_write records records).imp fun _ _ _ => rfl
  bind ha hf := ha.bind fun x _ hxy => hxy ▸ hf x

end Act

end ChatHost
