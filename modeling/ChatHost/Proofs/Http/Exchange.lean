import ChatHost.Proofs.Http.Client
import ChatHost.Proofs.Mirror

set_option autoImplicit false

/-!
The exchanges of a client: every request that is sent, redirected ones too, with what comes back.
-/

namespace ChatHost.Http

variable {σ γ : Type}

/-- A request, the world in which it is sent, and what comes back. -/
structure Exchange (σ : Type) where
  request : Request
  before : σ
  answer : Except Failure Response
  /-- Whether what comes back is a redirect, be it one that can be followed or not. -/
  redirects : Bool

def Rules.redirects (rules : Rules) (r : Request) : Except Failure Response → Bool
  | .ok response => (rules.next? r response).isSome
  | .error _ => false

def Client.noted (c : Client σ) : Client (Noted (Exchange σ) σ) where
  rules := c.rules
  send r := do
    let before ← Act.read Noted.world
    let answer ← Noted.silent (c.send r)
    Noted.note ⟨r, before, answer, c.rules.redirects r answer⟩
    return answer

theorem Client.noted_rules (c : Client σ) : c.noted.rules = c.rules :=
  rfl

theorem mirrors_request (c : Client σ) (r : Request) :
    Noted.Mirrors (c.noted.request r) (c.request r) := by
  have hsend (r : Request) : Noted.Mirrors (c.noted.send r) (c.send r) := by
    intro n
    have hrecords : [] ++ (((c.send r).run n.world).records ++ ([] ++ [])) =
        ((c.send r).run n.world).records := by simp
    exact ⟨_, congrArg (Outcome.mk _ _) hrecords⟩
  suffices hfollow : ∀ left r, Noted.Mirrors (c.noted.follow left r) (c.follow left r) by
    unfold Client.request
    rw [Client.noted_rules]
    split
    · exact Noted.mirrors_pure _
    · exact hfollow _ _
  intro left
  induction left with
  | zero => exact fun r => Noted.mirrors_pure _
  | succ left ih =>
    refine fun r => (hsend r).bind fun answer => ?_
    cases answer with
    | error e => exact Noted.mirrors_pure _
    | ok response =>
      dsimp only
      rw [Client.noted_rules]
      split
      · exact Noted.mirrors_pure _
      · exact Noted.mirrors_pure _
      · exact Noted.mirrors_pure _
      · exact ih _

def Client.behind {ε : Type} (c : Client σ) : Client (Noted ε σ) :=
  c.zoom Noted.world fun w n => { n with world := w }

theorem Client.behind_rules {ε : Type} (c : Client σ) :
    (c.behind : Client (Noted ε σ)).rules = c.rules :=
  rfl

theorem request_behind {ε : Type} (c : Client σ) (r : Request) :
    (c.behind : Client (Noted ε σ)).request r = Noted.silent (c.request r) := by
  suffices hfollow : ∀ left r, (c.behind : Client (Noted ε σ)).follow left r =
      Noted.silent (c.follow left r) by
    unfold Client.request
    rw [Client.behind_rules]
    split
    · rfl
    · exact hfollow _ _
  intro left
  induction left with
  | zero => exact fun r => rfl
  | succ left ih =>
    intro r
    unfold Client.follow
    rw [Noted.silent_bind]
    refine congrArg (Noted.silent (c.send r) >>= ·) (funext fun answer => ?_)
    cases answer with
    | error e => rfl
    | ok response =>
      dsimp only
      rw [Client.behind_rules]
      split
      · rfl
      · rfl
      · rfl
      · exact ih _

/-- The response that exchanges come to, unless they end with a failure or a redirect. -/
def concluded? (exchanges : List (Exchange σ)) : Option Response :=
  match exchanges.getLast? with
  | some ⟨_, _, .ok response, false⟩ => some response
  | _ => none

def answered? (m : Method) (exchanges : List (Exchange σ)) : Option Response :=
  concluded? (exchanges.filter fun x => x.request.method = m)

theorem concluded?_cons_redirect (x : Exchange σ) {response : Response}
    (hanswer : x.answer = .ok response) (hnext : x.redirects = true)
    (xs : List (Exchange σ)) : concluded? (x :: xs) = concluded? xs := by
  obtain ⟨r, before, answer, redirects⟩ := x
  dsimp only at hanswer hnext
  subst hanswer hnext
  cases xs with
  | nil => rfl
  | cons y ys => rw [concluded?, concluded?, List.getLast?_cons_cons]

variable {c : Client σ} {f : σ → γ}

theorem send_noted (hf : ∀ r, (c.send r).Preserves f) (r : Request)
    (n : Noted (Exchange σ) σ) :
    (c.noted.send r).Ends n fun answer v =>
      v.notes = n.notes ++ [⟨r, n.world, answer, c.rules.redirects r answer⟩] ∧
        f v.world = f n.world :=
  ⟨rfl, hf r n.world⟩

/-- What is known of the exchanges with which a request is made and its redirects are followed. -/
structure Followed (f : σ → γ) (r : Request) (w : σ) (answer : Except Failure Response)
    (exchanges : List (Exchange σ)) : Prop where
  concluded : concluded? exchanges = answer.toOption
  alike (x : Exchange σ) (hx : x ∈ exchanges) :
    x.request.method = r.method ∧ x.request.offset = r.offset ∧ f x.before = f w

theorem follow_noted (hf : ∀ r, (c.send r).Preserves f) (left : Nat) {r : Request}
    (hr : r.method ≠ .post) (n : Noted (Exchange σ) σ) :
    (c.noted.follow left r).Ends n fun answer v => ∃ exchanges,
      Followed f r n.world answer exchanges ∧ v.notes = n.notes ++ exchanges ∧
        f v.world = f n.world := by
  induction left generalizing r n with
  | zero => exact ⟨[], ⟨rfl, nofun⟩, (List.append_nil _).symm, rfl⟩
  | succ left ih =>
    refine (send_noted hf r n).bind ?_
    rintro answer v ⟨hnotes, hworld⟩
    have hone (given : Except Failure Response) {redirects : Bool}
        (hgiven : concluded? [(⟨r, n.world, answer, redirects⟩ : Exchange σ)] = given.toOption) :
        Followed f r n.world given [⟨r, n.world, answer, redirects⟩] :=
      ⟨hgiven, fun x hx => by rw [List.mem_singleton.1 hx]; exact ⟨rfl, rfl, rfl⟩⟩
    cases answer with
    | error e => exact ⟨_, hone _ rfl, hnotes, hworld⟩
    | ok response =>
      dsimp only
      rw [Client.noted_rules]
      split
      · rename_i hnext
        refine ⟨_, hone (.ok response) ?_, hnotes, hworld⟩
        simp [concluded?, Rules.redirects, hnext, Except.toOption]
      · rename_i e hnext
        refine ⟨_, hone (.error e) ?_, hnotes, hworld⟩
        simp [concluded?, Rules.redirects, hnext, Except.toOption]
      · rename_i r' e hnext _
        refine ⟨_, hone (.error e) ?_, hnotes, hworld⟩
        simp [concluded?, Rules.redirects, hnext, Except.toOption]
      · rename_i r' hnext _
        obtain ⟨hmethod, hoffset⟩ := c.rules.keeps hr hnext
        refine (ih (r := r') (by rwa [hmethod]) v).imp ?_
        rintro given u ⟨exchanges, ⟨hconcluded, halike⟩, hnotes', hworld'⟩
        refine ⟨⟨r, n.world, .ok response, c.rules.redirects r (.ok response)⟩ :: exchanges,
          ⟨?_, ?_⟩, ?_, hworld'.trans hworld⟩
        · rw [concluded?_cons_redirect _ rfl (by simp [Rules.redirects, hnext]), hconcluded]
        · intro x hx
          rcases List.mem_cons.1 hx with rfl | hx
          · exact ⟨rfl, rfl, rfl⟩
          · obtain ⟨hm, ho, hb⟩ := halike x hx
            exact ⟨hm.trans hmethod, ho.trans hoffset, hb.trans hworld⟩
        · rw [hnotes', hnotes, List.append_assoc, List.singleton_append]

theorem request_noted (hf : ∀ r, (c.send r).Preserves f) {r : Request} (hr : r.method ≠ .post)
    (n : Noted (Exchange σ) σ) :
    (c.noted.request r).Ends n fun answer v => ∃ exchanges,
      Followed f r n.world answer exchanges ∧ v.notes = n.notes ++ exchanges ∧
        f v.world = f n.world := by
  rw [Client.request]
  split
  · exact ⟨[], ⟨rfl, nofun⟩, (List.append_nil _).symm, rfl⟩
  · exact (follow_noted hf _ (r := { r with url := c.rules.sent r.url }) hr n).imp
      fun _ _ ⟨exchanges, ⟨hconcluded, halike⟩, hnotes, hworld⟩ =>
        ⟨exchanges, ⟨hconcluded, halike⟩, hnotes, hworld⟩

theorem answered?_append_left {m : Method} {xs ys : List (Exchange σ)}
    (hx : ∀ x ∈ xs, x.request.method = m) (hy : ∀ y ∈ ys, y.request.method ≠ m) :
    answered? m (xs ++ ys) = concluded? xs := by
  have hall : xs.filter (fun x => x.request.method = m) = xs := by simpa using hx
  have hnone : ys.filter (fun x => x.request.method = m) = [] := by simpa using hy
  rw [answered?, List.filter_append, hall, hnone, List.append_nil]

theorem answered?_append_right {m : Method} {xs ys : List (Exchange σ)}
    (hx : ∀ x ∈ xs, x.request.method ≠ m) (hy : ∀ y ∈ ys, y.request.method = m) :
    answered? m (xs ++ ys) = concluded? ys := by
  have hnone : xs.filter (fun x => x.request.method = m) = [] := by simpa using hx
  have hall : ys.filter (fun x => x.request.method = m) = ys := by simpa using hy
  rw [answered?, List.filter_append, hnone, hall, List.nil_append]

theorem ne_nil_of_concluded? {xs : List (Exchange σ)} {response : Response}
    (h : concluded? xs = some response) : xs ≠ [] := by
  rintro rfl
  cases h

end ChatHost.Http
