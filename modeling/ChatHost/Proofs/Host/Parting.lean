import ChatHost.Proofs.Host.Course
import ChatHost.Proofs.Host.Leases

set_option autoImplicit false

/-!
The parting of one session from the others in the traffic on a host. At every time no other session
has its provider, no other call has anything of it in its hands, and its start is where it should be
on the way to what the start comes to in the end.
-/

namespace ChatHost

variable {σ : Type}

/-- Whether what a call has in its hands belongs to a session only if the call is one on it: the
call that starts it, or a round or a closing on its handle. -/
def Stage.Parted (n : Nat) (k : Handle) (starts : Prop) (reader : Option Handle) : Stage → Prop
  | .idle => True
  | .starting m => m = n → starts
  | .reading m => m = n → reader = some k
  | .closing j m => m = n → j = k

theorem Turn.made_le {e f : Entry} {b c : Books} (h : Turn e f b c) : b.made ≤ c.made := by
  induction h with
  | make b => exact Nat.le_succ _
  | release k n b => exact Nat.le_of_eq (Books.release_frame n b).2.2.symm
  | close k n b => exact Nat.le_of_eq (Books.close_frame n b).2.2.symm
  | trans _ _ ih₁ ih₂ => exact Nat.le_trans ih₁ ih₂
  | _ => exact Nat.le_refl _

/-- At most one call is to start a provider, and one is just when the provider is in that phase. -/
theorem Ledger.starting_cases {phase : Nat → Phase} {b : Books} {es : List Entry}
    (h : Ledger phase b es) (n : Nat) :
    phase n = .starting ∧ (standing b es n).starting = 1 ∨ (standing b es n).starting = 0 := by
  have hfit := h.fits n
  cases hp : phase n with
  | starting =>
    rw [hp] at hfit
    exact .inl ⟨rfl, congrArg Standing.starting hfit⟩
  | unmade | given | bound | closing | closed =>
    rw [hp] at hfit
    exact .inr (congrArg Standing.starting hfit)

theorem standing_starting_pos {b : Books} {es : List Entry} {n : Nat} {e : Entry} (he : e ∈ es)
    (hstarting : e.stage = .starting n) : 0 < (standing b es n).starting :=
  List.countP_pos_iff.2 ⟨e, he, decide_eq_true hstarting⟩

theorem Ledger.starting_unique {phase : Nat → Phase} {b : Books} {es : List Entry}
    (h : Ledger phase b es) {i j n : Nat} {e f : Entry} (he : es[i]? = some e)
    (hf : es[j]? = some f) (hstarting : e.stage = .starting n)
    (hstarting' : f.stage = .starting n) : i = j := by
  by_contra hne
  obtain ⟨hlt, hget⟩ := List.getElem?_eq_some_iff.1 hf
  -- two such entries would be counted twice
  have hfront := (List.getElem_cons_eraseIdx_perm hlt).symm
  rw [hget] at hfront
  have hothers : e ∈ es.eraseIdx j := List.mem_eraseIdx_iff_getElem?.2 ⟨i, hne, he⟩
  have hone := standing_starting_pos (b := b) hothers hstarting
  have htwo : 1 < (standing b es n).starting := by
    rw [standing_perm hfront, standing_cons, if_pos hstarting']
    exact Nat.add_lt_add_right hone 1
  rcases h.starting_cases n with ⟨-, hcount⟩ | hcount <;> omega

theorem Ledger.phase_of_mem {phase : Nat → Phase} {b : Books} {es : List Entry}
    (h : Ledger phase b es) {n : Nat} {e : Entry} (he : e ∈ es)
    (hstarting : e.stage = .starting n) : phase n = .starting := by
  have hone := standing_starting_pos (b := b) he hstarting
  rcases h.starting_cases n with ⟨hphase, -⟩ | hcount
  · exact hphase
  · omega

theorem Operation.start_setModel (env : Surroundings σ) (model : Input)
    (check : Option (UrlCheck σ)) (h : Host (Noted Host.Event σ)) :
    ((Operation.setModel model check).noted.start env.noted).Ends h fun q _ =>
      (∃ e, q = .ended (.error e)) ∨ ∃ name, q = .waits (.starting ⟨name, h.made⟩) := by
  refine Act.Ends.bind (Host.beginStart_turn model check h) fun result v hv => ?_
  cases result with
  | error e => exact .inl ⟨e, rfl⟩
  | ok s =>
    obtain ⟨name, m⟩ := s
    obtain rfl : m = h.made := hv.1
    exact .inr ⟨name, rfl⟩

namespace Traffic

theorem step_of_ended {env : Surroundings σ} {t : Traffic σ} {i : Nat} {op : Operation σ}
    {result : Except (Failure HostError) Operation.Answer}
    (hc : t.calls[i]? = some ⟨op, .ended result⟩) (m : Move σ) :
    (t.step env m).calls[i]? = some ⟨op, .ended result⟩ := by
  cases m with
  | ask operation =>
    have hlt : i < t.calls.length := (List.getElem?_eq_some_iff.1 hc).1
    exact (List.getElem?_append_left hlt).trans hc
  | resume number =>
    by_cases hnumber : number = i
    · subst hnumber
      rwa [step_resume_ended hc]
    · exact (step_resume_of_ne env t hnumber).trans hc
  | outside change => exact hc

theorem run_of_ended (env : Surroundings σ) {t : Traffic σ} {i : Nat} {op : Operation σ}
    {result : Except (Failure HostError) Operation.Answer}
    (hc : t.calls[i]? = some ⟨op, .ended result⟩) (moves : List (Move σ)) :
    (t.run env moves).calls[i]? = some ⟨op, .ended result⟩ := by
  induction moves generalizing t with
  | nil => exact hc
  | cons m moves ih => exact ih (step_of_ended hc m)

theorem length_ask (env : Surroundings σ) (t : Traffic σ) (op : Operation σ) :
    (t.step env (.ask op)).calls.length = t.calls.length + 1 :=
  List.length_append

theorem length_step (env : Surroundings σ) (t : Traffic σ) (m : Move σ) :
    t.calls.length ≤ (t.step env m).calls.length := by
  cases m with
  | ask operation =>
    rw [length_ask]
    exact Nat.le_succ _
  | resume number => exact Nat.le_of_eq (length_resume env t number).symm
  | outside change => exact Nat.le_refl _

theorem length_run (env : Surroundings σ) (t : Traffic σ) (moves : List (Move σ)) :
    t.calls.length ≤ (t.run env moves).calls.length := by
  induction moves generalizing t with
  | nil => exact Nat.le_refl _
  | cons m moves ih => exact Nat.le_trans (length_step env t m) (ih _)

theorem step_operation (env : Surroundings σ) {t : Traffic σ} {i : Nat} {c : Call σ}
    (hc : t.calls[i]? = some c) (m : Move σ) :
    ∃ q, (t.step env m).calls[i]? = some ⟨c.operation, q⟩ := by
  have hlt : i < t.calls.length := (List.getElem?_eq_some_iff.1 hc).1
  cases m with
  | ask operation => exact ⟨c.progress, (List.getElem?_append_left hlt).trans hc⟩
  | outside change => exact ⟨c.progress, hc⟩
  | resume number =>
    by_cases hnumber : number = i
    · subst hnumber
      obtain ⟨op, result | p⟩ := c
      · exact ⟨.ended result, by rwa [step_resume_ended hc]⟩
      · rw [step_resume_waits hc]
        exact ⟨_, List.getElem?_set_self hlt⟩
    · exact ⟨c.progress, (step_resume_of_ne env t hnumber).trans hc⟩

theorem run_operation (env : Surroundings σ) {t : Traffic σ} {i : Nat} {c : Call σ}
    (hc : t.calls[i]? = some c) (moves : List (Move σ)) :
    ∃ q, (t.run env moves).calls[i]? = some ⟨c.operation, q⟩ := by
  induction moves generalizing t c with
  | nil => exact ⟨c.progress, hc⟩
  | cons m moves ih =>
    obtain ⟨q, hq⟩ := step_operation env hc m
    exact ih (c := ⟨c.operation, q⟩) hq

variable {env : Surroundings σ} {phase : Nat → Phase} {t : Traffic (Noted Host.Event σ)}
  {n first : Nat} {k : Handle}

theorem Booked.made_le (h : Booked phase t) (env : Surroundings σ) (m : Move σ) :
    t.host.made ≤ (t.step env.noted m.noted).host.made := by
  cases m with
  | ask op => exact (op.start_turn env t.host).made_le
  | resume number =>
    rcases step_resume_cases env.noted t number with hsame | ⟨op, p, hc⟩
    · exact Nat.le_of_eq (by rw [Move.noted, hsame])
    · rw [Move.noted, step_resume_waits hc]
      have hreader := h.reader (List.mem_of_getElem? hc)
      exact (Operation.resume_turn env p hreader t.host).made_le
  | outside change => exact Nat.le_refl _

theorem Booked.run_made_le (h : Booked phase t) (env : Surroundings σ) (moves : List (Move σ)) :
    t.host.made ≤ (t.run env.noted (moves.map Move.noted)).host.made := by
  induction moves generalizing phase t with
  | nil => exact Nat.le_refl _
  | cons m moves ih =>
    obtain ⟨phase', -, h'⟩ := h.step env m
    exact Nat.le_trans (h.made_le env m) (ih h')

/-- Where a call is that starts a session with a given provider: it is to start the provider, or it
has ended. -/
inductive Starts (n first : Nat) (phase : Nat → Phase) (t : Traffic (Noted Host.Event σ)) : Prop
  | waiting {op : Operation (Noted Host.Event σ)} {name : String}
    (hc : t.calls[first]? = some ⟨op, .waits (.starting ⟨name, n⟩)⟩)
  | finished {op : Operation (Noted Host.Event σ)}
    {result : Except (Failure HostError) Operation.Answer}
    (hc : t.calls[first]? = some ⟨op, .ended result⟩)
    (hk : ∀ j, result = .ok (.handle j) → (phase n).handle? = some j)

theorem Starts.known (h : Starts n first phase t) {op : Operation (Noted Host.Event σ)}
    (hc : t.calls[first]? = some ⟨op, .ended (.ok (.handle k))⟩) :
    (phase n).handle? = some k := by
  cases h with
  | waiting hc' => cases hc.symm.trans hc'
  | finished hc' hk =>
    cases hc.symm.trans hc'
    exact hk k rfl

theorem Starts.step (h : Starts n first phase t) (hb : Booked phase t) (env : Surroundings σ)
    (m : Move σ) :
    ∃ phase', Keeps phase phase' ∧ Booked phase' (t.step env.noted m.noted) ∧
      Starts n first phase' (t.step env.noted m.noted) := by
  obtain ⟨phase', hkeeps, hb'⟩ := hb.step env m
  refine ⟨phase', hkeeps, hb', ?_⟩
  cases h with
  | finished hc hk => exact .finished (step_of_ended hc _) fun j hj => hkeeps n j (hk j hj)
  | waiting hc =>
    rename_i op name
    have hlt : first < t.calls.length := (List.getElem?_eq_some_iff.1 hc).1
    cases m with
    | ask operation => exact .waiting ((List.getElem?_append_left hlt).trans hc)
    | outside change => exact .waiting hc
    | resume number =>
      by_cases hnumber : number = first
      · subst hnumber
        rw [Move.noted, step_resume_waits hc] at hb' ⊢
        have hset : (t.calls.set number ⟨op, ((Operation.resume env.noted (.starting ⟨name, n⟩)).run
            t.host).result⟩)[number]? = some ⟨op, ((Operation.resume env.noted
              (.starting ⟨name, n⟩)).run t.host).result⟩ := List.getElem?_set_self hlt
        obtain ⟨⟨result, hresult⟩, hhandle⟩ :=
          Operation.resume_starting env.noted ⟨name, n⟩ t.host
        refine .finished (hset.trans (congrArg (fun q => some (Call.mk op q)) hresult))
          fun j hj => ?_
        have hget := hhandle j (by rw [hresult, hj])
        have hbound : phase' n = .bound j :=
          (hb'.bindings j n).1 (congrArg (Option.map Session.provider) hget)
        rw [hbound]
        rfl
      · exact .waiting ((step_resume_of_ne env.noted t hnumber).trans hc)

theorem Starts.run (h : Starts n first phase t) (hb : Booked phase t) (env : Surroundings σ)
    (moves : List (Move σ)) :
    ∃ phase', Keeps phase phase' ∧ Booked phase' (t.run env.noted (moves.map Move.noted)) ∧
      Starts n first phase' (t.run env.noted (moves.map Move.noted)) := by
  induction moves generalizing phase t with
  | nil => exact ⟨phase, fun _ _ hk => hk, hb, h⟩
  | cons m moves ih =>
    obtain ⟨phase₁, hkeeps₁, hb₁, h₁⟩ := h.step hb env m
    obtain ⟨phase₂, hkeeps₂, hb₂, h₂⟩ := ih h₁ hb₁
    exact ⟨phase₂, fun n k hk => hkeeps₂ n k (hkeeps₁ n k hk), hb₂, h₂⟩

theorem starts_asked (env : Surroundings σ) (phase : Nat → Phase)
    (t : Traffic (Noted Host.Event σ)) (model : Input) (check : Option (UrlCheck σ)) :
    Starts t.host.made t.calls.length phase
      (t.step env.noted (Move.ask (.setModel model check)).noted) := by
  have hstart := Operation.start_setModel env model check t.host
  have hlast : (t.step env.noted (Move.ask (.setModel model check)).noted).calls[t.calls.length]? =
      some ⟨_, (((Operation.setModel model check).noted.start env.noted).run t.host).result⟩ :=
    List.getElem?_concat_length
  rcases hstart with ⟨e, he⟩ | ⟨name, hname⟩
  · rw [he] at hlast
    exact .finished hlast fun j hj => by cases hj
  · rw [hname] at hlast
    exact .waiting hlast

/-- Where the start of a session is that comes under a given handle: to come, under way or
finished. -/
inductive Stands (n : Nat) (k : Handle) (first : Nat) (t : Traffic (Noted Host.Event σ)) : Prop
  | ahead (hcalls : t.calls.length ≤ first) (hmade : t.host.made ≤ n)
  | waiting {op : Operation (Noted Host.Event σ)} {name : String}
    (hc : t.calls[first]? = some ⟨op, .waits (.starting ⟨name, n⟩)⟩)
  | finished {op : Operation (Noted Host.Event σ)}
    (hc : t.calls[first]? = some ⟨op, .ended (.ok (.handle k))⟩)

/-- Whether the traffic has a session apart from the others: no other session has its provider, and
no call on another has anything of it in its hands. -/
structure Parted (n : Nat) (k : Handle) (first : Nat) (t : Traffic (Noted Host.Event σ)) :
    Prop where
  sessions : ∀ j s, t.host.registry.get? j = some s → (s.provider = n ↔ j = k)
  calls : ∀ (i : Nat) (op : Operation (Noted Host.Event σ)) (p : Operation.Pending),
    t.calls[i]? = some ⟨op, .waits p⟩ → p.stage.Parted n k (i = first) op.reader?
  stands : t.Stands n k first

/-- The traffic is parted when its books can be carried on to a time at which the session is known
under its handle. -/
theorem Booked.parted (hb : Booked phase t) (hstands : t.Stands n k first)
    (hover : ∀ op, t.calls[first]? = some ⟨op, .ended (.ok (.handle k))⟩ →
      (phase n).handle? = some k)
    {later : Nat → Phase} {t' : Traffic (Noted Host.Event σ)} (hkeeps : Keeps phase later)
    (hb' : Booked later t') (hk : (later n).handle? = some k) : t.Parted n k first where
  sessions j s hs := by
    have hbound : phase s.provider = .bound j :=
      (hb.bindings j s.provider).1 (congrArg (Option.map Session.provider) hs)
    have hj : (later s.provider).handle? = some j := by
      refine hkeeps _ _ ?_
      rw [hbound]
      rfl
    constructor
    · rintro rfl
      exact Option.some.inj (hj.symm.trans hk)
    · rintro rfl
      exact hb'.distinct j _ _ hj hk
  calls i op p hc := by
    have hentry : (t.calls.map Call.entry)[i]? = some ⟨op.reader?, p.stage⟩ := by
      rw [List.getElem?_map, hc]
      rfl
    have hmem := List.mem_of_getElem? hentry
    cases hstage : p.stage with
    | idle => trivial
    | starting m =>
      rintro rfl
      -- a provider that is being started is in no other phase, so the session is not there yet
      have hphase := Ledger.phase_of_mem hb hmem hstage
      cases hstands with
      | ahead hcalls hmade =>
        rw [(hb.made m).2 hmade] at hphase
        cases hphase
      | waiting hfirst =>
        have hentry' := congrArg (Option.map Call.entry) hfirst
        rw [← List.getElem?_map] at hentry'
        exact Ledger.starting_unique hb hentry hentry' hstage rfl
      | finished hfirst =>
        have hhandle := hover _ hfirst
        rw [hphase] at hhandle
        cases hhandle
    | reading m =>
      rintro rfl
      obtain ⟨j, hj⟩ := hb.handle_of_reading hmem hstage
      have hreader := (hb.readers _ hmem j).2 ⟨m, hstage, hj⟩
      rw [Option.some.inj ((hkeeps m j hj).symm.trans hk)] at hreader
      exact hreader
    | closing j m =>
      rintro rfl
      have hphase := hb.closers _ hmem j m hstage
      have hj : (later m).handle? = some j := by
        refine hkeeps _ _ ?_
        rw [hphase]
        rfl
      exact Option.some.inj (hj.symm.trans hk)
  stands := hstands

/-- Before a session is started, when its start is to end with a handle. -/
theorem Booked.parted_ahead (hb : Booked phase t) (env : Surroundings σ) (moves : List (Move σ))
    {t' : Traffic (Noted Host.Event σ)} (ht' : t' = t.run env.noted (moves.map Move.noted))
    (model : Input) (check : Option (UrlCheck σ)) (after : List (Move σ))
    {op : Operation (Noted Host.Event σ)}
    (hend : ((t'.step env.noted (Move.ask (.setModel model check)).noted).run env.noted
      (after.map Move.noted)).calls[t'.calls.length]? = some ⟨op, .ended (.ok (.handle k))⟩) :
    t.Parted t'.host.made k t'.calls.length := by
  subst ht'
  -- the books are carried on through the rest of the moves, to where the session has its handle
  obtain ⟨phase₁, hkeeps₁, hb₁⟩ := hb.run env moves
  obtain ⟨phase₂, hkeeps₂, hb₂⟩ := hb₁.step env (.ask (.setModel model check))
  obtain ⟨phase₃, hkeeps₃, hb₃, hstarts⟩ :=
    (starts_asked env phase₂ _ model check).run hb₂ env after
  have hmade := hb.run_made_le env moves
  have hcalls := length_run env.noted t (moves.map Move.noted)
  refine hb.parted (.ahead hcalls hmade) (fun op' hc => ?_)
    (fun m j hj => hkeeps₃ m j (hkeeps₂ m j (hkeeps₁ m j hj))) hb₃ (hstarts.known hend)
  exact absurd (List.getElem?_eq_some_iff.1 hc).1 (Nat.not_lt.2 hcalls)

/-- From when a session is started on, when its start ends with a handle. -/
theorem Booked.parted_since (hb : Booked phase t) (h : Starts n first phase t)
    (env : Surroundings σ) (moves : List (Move σ)) {op : Operation (Noted Host.Event σ)}
    (hend : (t.run env.noted (moves.map Move.noted)).calls[first]? =
      some ⟨op, .ended (.ok (.handle k))⟩) : t.Parted n k first := by
  obtain ⟨later, hkeeps, hb', h'⟩ := h.run hb env moves
  refine hb.parted ?_ (fun op' hc => h.known hc) hkeeps hb' (h'.known hend)
  cases h with
  | waiting hc => exact .waiting hc
  | finished hc hk =>
    cases (run_of_ended _ hc _).symm.trans hend
    exact .finished hc

theorem observed_append (env : Surroundings σ) (w : σ) (before after : List (Move σ)) :
    observed env w (before ++ after) =
      (observed env w before).run env.noted (after.map Move.noted) := by
  simp only [observed, List.map_append, run_append]

/-- A session's provider belongs to its handle from then on. -/
theorem booked_of_registered (env : Surroundings σ) (w : σ) (before after : List (Move σ))
    {s : Session} (hs : (observed env w before).host.registry.get? k = some s) :
    ∃ phase, Booked phase (observed env w (before ++ after)) ∧
      (phase s.provider).handle? = some k := by
  obtain ⟨phase, -, hb⟩ := (booked_fresh w).run env before
  obtain ⟨phase', hkeeps, hb'⟩ := hb.run env after
  have hbound : phase s.provider = .bound k :=
    (hb.bindings k s.provider).1 (congrArg (Option.map Session.provider) hs)
  rw [observed_append]
  exact ⟨phase', hb', hkeeps _ _ (by rw [hbound]; rfl)⟩

theorem operation_of_asked (env : Surroundings σ) (w : σ) (before after : List (Move σ))
    (op : Operation σ) {c : Call (Noted Host.Event σ)}
    (hc : (observed env w (before ++ .ask op :: after)).calls[
      (observed env w before).calls.length]? = some c) : c.operation = op.noted := by
  have hasked : (observed env w (before ++ [.ask op])).calls[
      (observed env w before).calls.length]? =
      some ⟨op.noted, ((op.noted.start env.noted).run (observed env w before).host).result⟩ := by
    rw [observed_append]
    exact List.getElem?_concat_length
  obtain ⟨q, hq⟩ := run_operation env.noted hasked (after.map Move.noted)
  rw [← observed_append, List.append_assoc, List.singleton_append] at hq
  cases hc.symm.trans hq
  rfl

/-- Whoever starts a session and is given a handle in the end has it apart from the others at every
time. -/
theorem parted_of_setModel (env : Surroundings σ) (w : σ) (before after : List (Move σ))
    (model : Input) (check : Option (UrlCheck σ)) {op : Operation (Noted Host.Event σ)}
    (hend : (observed env w (before ++ .ask (.setModel model check) :: after)).calls[
      (observed env w before).calls.length]? = some ⟨op, .ended (.ok (.handle k))⟩)
    {earlier later : List (Move σ)}
    (hmoves : before ++ .ask (.setModel model check) :: after = earlier ++ later) :
    (observed env w earlier).Parted (observed env w before).host.made k
      (observed env w before).calls.length := by
  have hend' := hend
  rw [observed_append, List.map_cons] at hend'
  have hahead {moves : List (Move σ)} (hbefore : before = earlier ++ moves) :
      (observed env w earlier).Parted (observed env w before).host.made k
        (observed env w before).calls.length := by
    obtain ⟨phase, -, hb⟩ := (booked_fresh w).run env earlier
    have hmiddle := observed_append env w earlier moves
    rw [← hbefore] at hmiddle
    exact Booked.parted_ahead hb env moves hmiddle model check after hend'
  -- the time that is looked at is after the call that starts the session, or before it
  rcases List.append_eq_append_iff.1 hmoves with ⟨rest, hearlier, hrest⟩ | ⟨rest, hbefore, -⟩
  · cases rest with
    | nil => exact hahead (by rw [hearlier, List.append_nil, List.append_nil])
    | cons m rest =>
      obtain ⟨rfl, rfl⟩ := List.cons.inj hrest
      obtain ⟨phase, -, hb⟩ := (booked_fresh w).run env before
      obtain ⟨phase₁, -, hb₁⟩ := hb.step env (.ask (.setModel model check))
      obtain ⟨phase₂, -, hb₂, h₂⟩ :=
        (starts_asked env phase₁ (observed env w before) model check).run hb₁ env rest
      have hmiddle := observed_append env w before (.ask (.setModel model check) :: rest)
      rw [List.map_cons, ← hearlier] at hmiddle
      rw [hmoves, observed_append] at hend
      exact Booked.parted_since (hmiddle ▸ hb₂) (hmiddle ▸ h₂) env later hend
  · exact hahead hbefore

end Traffic

end ChatHost
