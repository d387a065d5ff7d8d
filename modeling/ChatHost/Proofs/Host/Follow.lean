import ChatHost.Proofs.Host.Excerpt

set_option autoImplicit false

/-!
The same session in the traffic on two hosts: among others on the one, by itself on the other. Each
move of the traffic on the first is followed on the second by the move that is kept of it, if one
is.
-/

namespace ChatHost

variable {σ γ : Type}

/-- What a call waits for that is none of a session is the business of others. -/
theorem Call.foreign_of_parted {d : Handle → Text.Letters → Prop} {n : Nat} {k : Handle}
    {first i : Nat}
    {op : Operation σ} {p : Operation.Pending} (hcourse : Call.OnCourse d ⟨op, .waits p⟩)
    (hparted : p.stage.Parted n k (i = first) op.reader?)
    (hother : ¬ Call.On first k i ⟨op, .waits p⟩) : p.Foreign n k := by
  have hi : i ≠ first := fun hi => hother (.inl hi)
  have hname : op.names k ≠ true := fun hname => hother (.inr (.inl hname))
  have hat : (Operation.Progress.waits p).isAt k ≠ true := fun hat => hother (.inr (.inr hat))
  cases p with
  | starting s => exact fun hs => hi (hparted hs)
  | visiting j options tools endpoint left =>
    cases op with
    | setOptions j' input =>
      obtain ⟨rfl, -, -⟩ := hcourse
      exact fun hj => hname (decide_eq_true hj)
    | _ => cases hcourse
  | hearing r | scanning r reply | hearingAgain r request =>
    cases op with
    | readResponse j =>
      obtain ⟨rfl, -⟩ := hcourse
      have hr : r.handle ≠ k := fun hr => hname (decide_eq_true hr)
      exact ⟨hr, fun hm => hr (Option.some.inj (hparted hm))⟩
    | _ => cases hcourse
  | releasing m result =>
    cases op with
    | readResponse j =>
      intro hm
      exact hname (decide_eq_true (Option.some.inj (hparted hm)))
    | _ => cases hcourse
  | closing j m =>
    cases op with
    | close j' =>
      obtain rfl : j = j' := hcourse
      exact fun hm => hname (decide_eq_true (hparted hm))
    | _ => cases hcourse
  | closingEach j m left => exact fun hm => hat (decide_eq_true (hparted hm))

/-- Only the closing of all sessions waits for one of several closings. -/
theorem Call.isAt_of_course {d : Handle → Text.Letters → Prop} {k : Handle} {op : Operation σ}
    {q : Operation.Progress} (hcourse : Call.OnCourse d ⟨op, q⟩) (hop : op ≠ .closeAll) :
    q.isAt k = false := by
  cases q with
  | ended result => rfl
  | waits p =>
    cases p with
    | closingEach j m left =>
      cases op with
      | closeAll => exact absurd rfl hop
      | _ => cases hcourse
    | _ => rfl

theorem Operation.Progress.passed_nil (q : Operation.Progress) : q.passed [] = [] := by
  cases q with
  | ended result => cases result <;> rfl
  | waits p => exact List.take_nil

namespace Traffic

/-- How many providers have been made, and which handle is next, where a session is by itself: this
is known from the call that starts it. -/
def counts (first : Nat) (t : Traffic σ) : Nat × Nat :=
  match t.calls[first]? with
  | none => (0, 1)
  | some ⟨_, .waits _⟩ => (1, 1)
  | some ⟨_, .ended _⟩ => (1, 2)

theorem counts_congr {first : Nat} {t t' : Traffic σ} (h : t'.calls[first]? = t.calls[first]?) :
    t'.counts first = t.counts first := by
  rw [counts, counts, h]

structure OnCourse (d : Handle → Text.Letters → Prop) (t : Traffic σ) : Prop where
  equips : t.host.registry.Equips d
  calls : ∀ (i : Nat) (c : Call σ), t.calls[i]? = some c → c.OnCourse d

theorem OnCourse.step {d : Handle → Text.Letters → Prop} {t : Traffic σ} (h : t.OnCourse d)
    (env : Surroundings σ) (m : Move σ) (hm : ∀ op, m = .ask op → op.Declares d) :
    (t.step env m).OnCourse d := by
  have hnext {i : Nat} {c : Call σ} {next : List (Call σ)} (hreplaced : Replaced t.calls next i c)
      (hc : c.OnCourse d) (j : Nat) (c' : Call σ) (hc' : next[j]? = some c') : c'.OnCourse d := by
    rw [hreplaced] at hc'
    split_ifs at hc' with hj
    · exact Option.some.inj hc' ▸ hc
    · exact h.calls j c' hc'
  cases m with
  | ask op =>
    obtain ⟨hcourse, hequips⟩ := op.start_course env (hm op rfl) t.host h.equips
    exact ⟨hequips, hnext (replaced_append _ _) hcourse⟩
  | resume number =>
    rcases step_resume_cases env t number with hsame | ⟨op, p, hc⟩
    · rwa [hsame]
    · rw [step_resume_waits hc]
      obtain ⟨hcourse, hequips⟩ :=
        Operation.resume_course env op p (h.calls number _ hc) t.host h.equips
      have hlt : number < t.calls.length := (List.getElem?_eq_some_iff.1 hc).1
      exact ⟨hequips, hnext (replaced_set hlt _) hcourse⟩
  | outside change => exact ⟨h.equips, h.calls⟩

/-- The call that starts a session waits for nothing but the start of its provider. -/
theorem Parted.starting_of_waits {n first : Nat} {k : Handle} {t : Traffic (Noted Host.Event σ)}
    (h : t.Parted n k first) {op : Operation (Noted Host.Event σ)} {p : Operation.Pending}
    (hc : t.calls[first]? = some ⟨op, .waits p⟩) : ∃ x, p = .starting x := by
  cases h.stands with
  | ahead hcalls => exact absurd (List.getElem?_eq_some_iff.1 hc).1 (Nat.not_lt.2 hcalls)
  | waiting hfirst =>
    cases hc.symm.trans hfirst
    exact ⟨_, rfl⟩
  | finished hfirst => cases hc.symm.trans hfirst

/-- Whether a session is the same in the traffic on two hosts. -/
structure Follows (view : σ → γ) (n : Nat) (k : Handle) (first : Nat)
    (t : Traffic (Noted Host.Event σ)) (place : Nat → Option Nat)
    (s : Traffic (Noted Host.Event σ)) : Prop where
  host : t.host.Twins view n k (t.counts first).1 (t.counts first).2 s.host
  calls : Call.Paired n k first t.calls place s.calls

variable {env : Surroundings σ} {view : σ → γ} {n first : Nat} {k : Handle}
  {t s : Traffic (Noted Host.Event σ)} {place : Nat → Option Nat}

namespace Follows

theorem outside (h : Follows view n k first t place s) {change : σ → σ}
    (hchange : (Move.outside change).Apart env view k) :
    Follows view n k first (t.step env.noted (Move.outside change).noted) place
      (s.step (env.only n).noted (Move.outside change).noted) where
  host := by
    obtain ⟨hview, hasked⟩ := Prod.mk.inj h.host.side
    exact
      { h.host with
        side := Prod.ext (hchange _ _ hview) hasked }
  calls := h.calls

theorem askOwn (h : Follows view n k first t place s) (hp : env.Apart view n) {op : Operation σ}
    (hname : op.names k = true) (hfirst : t.calls.length ≠ first) :
    Follows view n k first (t.step env.noted (Move.ask op).noted)
      (Function.update place t.calls.length (some s.calls.length))
      (s.step (env.only n).noted (Move.ask op.alone).noted) := by
  obtain ⟨halike, htwins⟩ := Operation.start_twins hp op hname t.host s.host h.host
  have hreplaced := replaced_append t.calls
    ⟨op.noted, ((op.noted.start env.noted).run t.host).result⟩
  have hcounts : (t.step env.noted (Move.ask op).noted).counts first = t.counts first :=
    counts_congr ((hreplaced first).trans (if_neg hfirst.symm))
  have hcall := Call.Alike.own op.noted halike
  rw [← op.alone_noted] at hcall
  refine ⟨?_, h.calls.ask hreplaced hcall⟩
  rw [hcounts]
  exact htwins

/-- Several sessions are being closed, and the session is passed or not. -/
theorem of_passing {t' : Traffic (Noted Host.Event σ)} {calls : List (Call (Noted Host.Event σ))}
    {number : Nat} {q : Operation.Progress} {ks : List Handle}
    (h : Call.Paired n k first calls place s.calls)
    (hreplaced : Replaced calls t'.calls number ⟨.closeAll, q⟩)
    (hstay : q.isAt k = false → Call.Paired n k first t'.calls place s.calls)
    (hpassing : Operation.Passing env view n k (t'.counts first).1 (t'.counts first).2 ks s.host q
      t'.host) :
    if k ∈ q.passed ks then
      Follows view n k first t' (Function.update place number (some s.calls.length))
        (s.step (env.only n).noted (Move.ask (.close 1)).noted)
    else Follows view n k first t' place s := by
  unfold Operation.Passing at hpassing
  split_ifs at hpassing ⊢ with hk
  · obtain ⟨hcall, htwins⟩ := hpassing
    exact ⟨htwins, h.ask hreplaced hcall⟩
  · obtain ⟨hat, htwins⟩ := hpassing
    exact ⟨htwins, hstay hat⟩

theorem askAll (env : Surroundings σ) (h : Follows view n k first t place s)
    (hfirst : t.calls.length ≠ first) :
    if k ∈ ((Operation.closeAll.start env.noted).run t.host).result.passed
        t.host.registry.handles then
      Follows view n k first (t.step env.noted (Move.ask .closeAll).noted)
        (Function.update place t.calls.length (some s.calls.length))
        (s.step (env.only n).noted (Move.ask (.close 1)).noted)
    else Follows view n k first (t.step env.noted (Move.ask .closeAll).noted) place s := by
  have hreplaced := replaced_append t.calls
    ⟨.closeAll, ((Operation.closeAll.start env.noted).run t.host).result⟩
  have hcounts : (t.step env.noted (Move.ask .closeAll).noted).counts first = t.counts first :=
    counts_congr ((hreplaced first).trans (if_neg hfirst.symm))
  refine of_passing h.calls hreplaced (fun hat => ?_) ?_
  · refine h.calls.pass hreplaced (h.calls.place_none (List.getElem?_eq_none (Nat.le_refl _))) ?_
    rintro (hi | hname | hon)
    · exact hfirst hi
    · cases hname
    · cases hat.symm.trans hon
  · rw [hcounts]
    exact Operation.closeNext_twins t.host.registry.handles h.host

theorem askOther (h : Follows view n k first t place s) (hp : env.Apart view n)
    {op : Operation σ} (hop : op ≠ .closeAll) (hname : op.names k = false)
    (hm : (Move.ask op).Apart env view k) (hfirst : t.calls.length ≠ first)
    (hparted : t.Parted n k first)
    (hparted' : (t.step env.noted (Move.ask op).noted).Parted n k first)
    (hcourse : (t.step env.noted (Move.ask op).noted).OnCourse (env.Serves view k)) :
    Follows view n k first (t.step env.noted (Move.ask op).noted) place s := by
  have hreplaced := replaced_append t.calls
    ⟨op.noted, ((op.noted.start env.noted).run t.host).result⟩
  have hlast : (t.step env.noted (Move.ask op).noted).calls[t.calls.length]? =
      some ⟨op.noted, ((op.noted.start env.noted).run t.host).result⟩ :=
    (hreplaced _).trans (if_pos rfl)
  have hcounts : (t.step env.noted (Move.ask op).noted).counts first = t.counts first :=
    counts_congr ((hreplaced first).trans (if_neg hfirst.symm))
  have hlane : (op.noted.start env.noted).Ends t.host fun q v =>
      (∀ s, q = .waits (.starting s) → s.provider ≠ n) →
        v.lane view n k = t.host.lane view n k :=
    Operation.start_lane hp op hname hop t.host
      (fun j x hj hx hprovider => hj ((hparted.sessions j x hx).1 hprovider)) hm.2
  have hstarting (x : Host.Starting)
      (hx : ((op.noted.start env.noted).run t.host).result = .waits (.starting x)) :
      x.provider ≠ n := by
    rw [hx] at hlast
    exact fun hprovider => hfirst (hparted'.calls _ _ _ hlast hprovider)
  have hnoted : op.noted ≠ .closeAll := by
    intro hall
    cases op with
    | closeAll => exact hop rfl
    | _ => cases hall
  have hplace := h.calls.place_none (List.getElem?_eq_none (Nat.le_refl _))
  refine ⟨?_, h.calls.pass hreplaced hplace ?_⟩
  · rw [hcounts]
    exact h.host.lane (hlane hstarting)
  · rintro (hi | hname' | hon)
    · exact hfirst hi
    · have hnames : op.noted.names k = op.names k := by cases op <;> rfl
      cases hname.symm.trans (hnames.symm.trans hname')
    · cases (Call.isAt_of_course (hcourse.calls _ _ hlast) hnoted).symm.trans hon

theorem askFirst (h : Follows view n k t.calls.length t place s) (hp : env.Apart view n)
    {model : Input} {check : Option (UrlCheck σ)}
    (hcheck : ∀ c, check = some c → ∀ parts, (c parts).Sees view) (hmade : t.host.made = n)
    (hparted' : (t.step env.noted (Move.ask (.setModel model check)).noted).Parted n k
      t.calls.length) :
    Follows view n k t.calls.length (t.step env.noted (Move.ask (.setModel model check)).noted)
      (Function.update place t.calls.length (some s.calls.length))
      (s.step (env.only n).noted (Move.ask (.setModel model check)).noted) := by
  have hreplaced := replaced_append t.calls ⟨(Operation.setModel model check).noted,
    (((Operation.setModel model check).noted.start env.noted).run t.host).result⟩
  have hlast : (t.step env.noted (Move.ask (.setModel model check)).noted).calls[t.calls.length]? =
      some ⟨(Operation.setModel model check).noted,
        (((Operation.setModel model check).noted.start env.noted).run t.host).result⟩ :=
    (hreplaced _).trans (if_pos rfl)
  have hcounts : t.counts t.calls.length = (0, 1) := by
    rw [counts, List.getElem?_eq_none (Nat.le_refl _)]
  have htwins := h.host
  rw [hcounts] at htwins
  have hstart := Operation.start_twins_setModel hp model hcheck htwins hmade
  have hwaits : ∃ name, (((Operation.setModel model check).noted.start env.noted).run
      t.host).result = .waits (.starting ⟨name, n⟩) := by
    rcases Operation.start_setModel env model check t.host with ⟨e, he⟩ | ⟨name, hname⟩
    · -- a start that fails at once never ends with the handle
      have hended := hlast.trans (congrArg (fun q => some (Call.mk _ q)) he)
      cases hparted'.stands with
      | ahead hcalls => exact absurd (List.getElem?_eq_some_iff.1 hlast).1 (Nat.not_lt.2 hcalls)
      | waiting hc => cases hended.symm.trans hc
      | finished hc => cases hended.symm.trans hc
    · exact ⟨name, hmade ▸ hname⟩
  obtain ⟨name, hname⟩ := hwaits
  obtain ⟨halike, htwins'⟩ := hstart _ hname
  have hcounts' : (t.step env.noted (Move.ask (.setModel model check)).noted).counts
      t.calls.length = (1, 1) := by
    rw [counts, hlast, hname]
  refine ⟨?_, h.calls.ask hreplaced (.own _ halike)⟩
  rw [hcounts']
  exact htwins'

theorem resumeOther (h : Follows view n k first t place s) (hp : env.Apart view n) {number : Nat}
    {op : Operation (Noted Host.Event σ)} {p : Operation.Pending}
    (hc : t.calls[number]? = some ⟨op, .waits p⟩) (hplace : place number = none)
    (hp' : ∀ j m left, p ≠ .closingEach j m left) (hparted : t.Parted n k first)
    (hparted' : (t.step env.noted (Move.resume number).noted).Parted n k first)
    (hcourse : t.OnCourse (env.Serves view k))
    (hcourse' : (t.step env.noted (Move.resume number).noted).OnCourse (env.Serves view k)) :
    Follows view n k first (t.step env.noted (Move.resume number).noted) place s := by
  have hother : ¬ Call.On first k number ⟨op, .waits p⟩ := by
    intro hon
    obtain ⟨j, hj⟩ := h.calls.own number _ hc hon
    cases hplace.symm.trans hj
  have hforeign := Call.foreign_of_parted (hcourse.calls _ _ hc) (hparted.calls _ _ _ hc) hother
  have hlane := Operation.resume_lane hp op p (hcourse.calls _ _ hc) hforeign hp' t.host
  have hlt : number < t.calls.length := (List.getElem?_eq_some_iff.1 hc).1
  have hreplaced := replaced_set hlt (Call.mk op ((Operation.resume env.noted p).run t.host).result)
  have hfirst : number ≠ first := fun hi => hother (.inl hi)
  rw [Move.noted, step_resume_waits hc] at hparted' hcourse' ⊢
  -- no other start is answered with this handle: it would put another provider under it
  have hanswer : (∃ s, p = .starting s) →
      ((Operation.resume env.noted p).run t.host).result ≠ .ended (.ok (.handle k)) := by
    rintro ⟨x, rfl⟩ hended
    have hget := (Operation.resume_starting env.noted x t.host).2 k hended
    exact hforeign ((hparted'.sessions k _ hget).2 rfl)
  refine ⟨?_, h.calls.pass hreplaced hplace ?_⟩
  · rw [counts_congr ((hreplaced first).trans (if_neg hfirst.symm))]
    exact h.host.lane (hlane hanswer)
  · rintro (hi | hname | hon)
    · exact hfirst hi
    · exact hother (.inr (.inl hname))
    · have hop : op ≠ .closeAll := by
        rintro rfl
        have hwaits := hcourse.calls _ _ hc
        cases p with
        | closingEach j m left => exact hp' j m left rfl
        | _ => cases hwaits
      have hnext := hcourse'.calls _ _ ((hreplaced number).trans (if_pos rfl))
      cases (Call.isAt_of_course hnext hop).symm.trans hon

theorem resumeOwn (h : Follows view n k first t place s) (hp : env.Apart view n) {number j : Nat}
    {op : Operation (Noted Host.Event σ)} {p p' : Operation.Pending}
    (hc : t.calls[number]? = some ⟨op, .waits p⟩) (hplace : place number = some j)
    (hc' : s.calls[j]? = some ⟨op.alone, .waits p'⟩) (hpp : Operation.Pending.Alike n k p p')
    (hparted : t.Parted n k first)
    (hparted' : (t.step env.noted (Move.resume number).noted).Parted n k first)
    (hcourse : t.OnCourse (env.Serves view k)) :
    Follows view n k first (t.step env.noted (Move.resume number).noted) place
      (s.step (env.only n).noted (Move.resume j).noted) := by
  have hlt : number < t.calls.length := (List.getElem?_eq_some_iff.1 hc).1
  have hreplaced := replaced_set hlt (Call.mk op ((Operation.resume env.noted p).run t.host).result)
  rw [Move.noted, step_resume_waits hc] at hparted' ⊢
  rw [Move.noted, step_resume_waits hc']
  -- only the end of the start changes what is counted
  by_cases hstarting : ∃ x, p = .starting x
  · obtain ⟨x, rfl⟩ := hstarting
    obtain ⟨name⟩ := hpp
    obtain rfl : number = first := hparted.calls _ _ _ hc rfl
    have htwins := h.host
    rw [counts, hc] at htwins
    have hnext := (hreplaced number).trans (if_pos rfl)
    obtain ⟨⟨result, hresult⟩, -⟩ :=
      Operation.resume_starting env.noted ⟨name, n⟩ t.host
    have hended : ((Operation.resume env.noted (.starting ⟨name, n⟩)).run t.host).result =
        .ended (.ok (.handle k)) := by
      cases hparted'.stands with
      | ahead hcalls => exact absurd (List.getElem?_eq_some_iff.1 hnext).1 (Nat.not_lt.2 hcalls)
      | waiting hfirst =>
        cases (hnext.trans (congrArg (fun q => some (Call.mk op q)) hresult)).symm.trans hfirst
      | finished hfirst => exact congrArg Call.progress (Option.some.inj (hnext.symm.trans hfirst))
    obtain ⟨halike, htwins'⟩ := Operation.resume_twins_starting hp name htwins hended
    refine ⟨?_, h.calls.advance hreplaced hplace (.own op halike)⟩
    have hcounts : counts number ⟨((Operation.resume env.noted (.starting ⟨name, n⟩)).run
        t.host).world, t.calls.set number ⟨op, ((Operation.resume env.noted
          (.starting ⟨name, n⟩)).run t.host).result⟩⟩ = (1, 2) := by
      rw [counts, hnext, hended]
    rw [hcounts]
    exact htwins'
  · have hfirst : number ≠ first := by
      rintro rfl
      exact hstarting (hparted.starting_of_waits hc)
    obtain ⟨halike, htwins⟩ := Operation.resume_twins hp hpp (hcourse.calls _ _ hc)
      (fun x hx => hstarting ⟨x, hx⟩) t.host s.host h.host
    refine ⟨?_, h.calls.advance hreplaced hplace (.own op halike)⟩
    rw [counts_congr ((hreplaced first).trans (if_neg hfirst.symm))]
    exact htwins

theorem resumeClosing (h : Follows view n k first t place s) (hp : env.Apart view n)
    {number j : Nat} {left : List Handle}
    (hc : t.calls[number]? = some ⟨.closeAll, .waits (.closingEach k n left)⟩)
    (hplace : place number = some j)
    (hc' : s.calls[j]? = some ⟨.close 1, .waits (.closing 1 0)⟩) (hparted : t.Parted n k first) :
    let s' := s.step (env.only n).noted (Move.resume j).noted
    if k ∈ ((Operation.resume env.noted (.closingEach k n left)).run t.host).result.passed left then
      Follows view n k first (t.step env.noted (Move.resume number).noted)
        (Function.update place number (some s'.calls.length))
        (s'.step (env.only n).noted (Move.ask (.close 1)).noted)
    else Follows view n k first (t.step env.noted (Move.resume number).noted) place s' := by
  intro s'
  have hlt : number < t.calls.length := (List.getElem?_eq_some_iff.1 hc).1
  have hreplaced := replaced_set hlt (Call.mk .closeAll
    ((Operation.resume env.noted (.closingEach k n left)).run t.host).result)
  have hfirst : number ≠ first := by
    rintro rfl
    obtain ⟨x, hx⟩ := hparted.starting_of_waits hc
    cases hx
  obtain ⟨⟨result, hresult⟩, hpassing⟩ := Operation.resume_twins_closing hp left h.host
  have hs' : s' = ⟨((Operation.resume (env.only n).noted (.closing 1 0)).run s.host).world,
      s.calls.set j ⟨.close 1, .ended result⟩⟩ := by
    rw [← hresult]
    exact step_resume_waits hc'
  -- for the time being both calls count as ended
  have hended := replaced_set hlt (Call.mk .closeAll (.ended result))
  have hpaired : Call.Paired n k first (t.calls.set number ⟨.closeAll, .ended result⟩) place
      s'.calls := by
    rw [hs']
    exact h.calls.advance hended hplace (.closed rfl result)
  have hplaced : s'.calls[j]? = some ⟨.close 1, .ended result⟩ := by
    rw [hs']
    exact List.getElem?_set_self (h.calls.lt_length hplace)
  have hnext : t.step env.noted (Move.resume number).noted = _ := step_resume_waits hc
  rw [hnext]
  refine of_passing hpaired (hended.again hreplaced) (fun hat => ?_) ?_
  · exact hpaired.stay (hended.again hreplaced) hplace hplaced (.closed hat result)
  · rw [counts_congr ((hreplaced first).trans (if_neg hfirst.symm)), hs']
    exact hpassing

theorem resumeClosingOther (h : Follows view n k first t place s) (hp : env.Apart view n)
    {number m : Nat} {i : Handle} {left : List Handle}
    (hc : t.calls[number]? = some ⟨.closeAll, .waits (.closingEach i m left)⟩) (hi : i ≠ k)
    (hparted : t.Parted n k first) :
    if k ∈ ((Operation.resume env.noted (.closingEach i m left)).run t.host).result.passed left then
      Follows view n k first (t.step env.noted (Move.resume number).noted)
        (Function.update place number (some s.calls.length))
        (s.step (env.only n).noted (Move.ask (.close 1)).noted)
    else Follows view n k first (t.step env.noted (Move.resume number).noted) place s := by
  have hlt : number < t.calls.length := (List.getElem?_eq_some_iff.1 hc).1
  have hreplaced := replaced_set hlt (Call.mk .closeAll
    ((Operation.resume env.noted (.closingEach i m left)).run t.host).result)
  have hfirst : number ≠ first := by
    rintro rfl
    obtain ⟨x, hx⟩ := hparted.starting_of_waits hc
    cases hx
  have hm : m ≠ n := fun hm => hi (hparted.calls _ _ _ hc hm)
  have hpassing := Operation.resume_twins_closingOther hp i hm left h.host
  have hnext : t.step env.noted (Move.resume number).noted = _ := step_resume_waits hc
  rw [hnext]
  refine of_passing h.calls hreplaced (fun hat => ?_) ?_
  · -- the call has a place if the session has been passed by it before
    cases hplace : place number with
    | none =>
      refine h.calls.pass hreplaced hplace ?_
      rintro (hnumber | hname | hon)
      · exact hfirst hnumber
      · cases hname
      · cases hat.symm.trans hon
    | some j =>
      obtain ⟨c, c', hcall, hcall', halike⟩ := h.calls.alike number j hplace
      cases hc.symm.trans hcall
      cases halike with
      | own op hpp =>
        cases hpp with
        | waits hpending => cases hpending
      | closing => exact absurd rfl hi
      | closed _ result => exact h.calls.stay hreplaced hplace hcall' (.closed hat result)
  · rw [counts_congr ((hreplaced first).trans (if_neg hfirst.symm))]
    exact hpassing

/-- Where a session is the same in the traffic on two hosts, what belongs to it on the first does
not depend on anything else there. -/
theorem lane {t t' s s' : Traffic (Noted Host.Event σ)} {place place' : Nat → Option Nat}
    (h : Follows view n k first t place s) (h' : Follows view n k first t' place' s')
    (hs : s' = s) : t'.host.lane view n k = t.host.lane view n k := by
  subst hs
  have hsession : t'.host.registry.get? k = t.host.registry.get? k := by
    have hsame := h'.host.session.trans h.host.session.symm
    cases hget : t.host.registry.get? k with
    | none =>
      rw [hget] at hsame
      exact Option.map_eq_none_iff.1 hsame
    | some x =>
      rw [hget] at hsame
      obtain ⟨x', hget', halone⟩ := Option.map_eq_some_iff.1 hsame
      have hprovider := h.host.provider x hget
      have hprovider' := h'.host.provider x' hget'
      rw [hget']
      calc
        some x' = some { x'.alone with provider := x'.provider } := rfl
        _ = some { x.alone with provider := x.provider } := by rw [halone, hprovider, hprovider']
        _ = some x := rfl
  have hlease := h'.host.lease.trans h.host.lease.symm
  have hside := h'.host.side.trans h.host.side.symm
  exact Prod.ext hsession (Prod.ext hlease hside)

end Follows

end Traffic

end ChatHost
