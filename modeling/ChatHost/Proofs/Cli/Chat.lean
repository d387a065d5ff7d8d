import ChatHost.Http.Location
import ChatHost.Proofs.Cli.Dialogue
import ChatHost.Proofs.Host.Whole
import ChatHost.Proofs.Logging

set_option autoImplicit false

/-!
The chat command from its start to its end. A session that has been started is closed whatever has
happened in it, and with it the provider that was made for it; one that could not be started leaves
nothing behind.
-/

namespace ChatHost

namespace Books

def fresh : Books :=
  ⟨fun _ => none, 1, fun _ => {}, 0, fun _ => 0⟩

/-- Whether nothing stands under a handle, and every provider that was made, of which there is at
most one, has been shut down once. -/
structure Settled (b : Books) : Prop where
  made : b.made ≤ 1
  bindings (k : Handle) : b.bindings k = none
  shutdowns (n : Nat) : b.shutdowns n = if n < b.made then 1 else 0

theorem settled_fresh : fresh.Settled :=
  ⟨Nat.zero_le 1, fun _ => rfl, fun _ => rfl⟩

theorem settled_failed : (fresh.make.shutdown 0).Settled := by
  refine ⟨Nat.le_refl 1, fun _ => rfl, fun n => ?_⟩
  cases n <;> rfl

theorem settled_closed : (((fresh.make.bind 0).unbind 1).close 0).Settled := by
  refine ⟨Nat.le_refl 1, fun k => ?_, fun n => ?_⟩
  · rw [(close_frame 0 _).1]
    simp [unbind, bind, make, fresh, Registry.lastHandle]
  · cases n <;> rfl

end Books

namespace Cli

variable {σ : Type} {sys : System σ} {env : Surroundings σ} {handle : Handle}

/-- What a command line finds, in a world in which notes are taken of what hosts ask. -/
def System.noted (sys : System σ) : System (Noted Host.Event σ) where
  files := sys.files.zoom Noted.world fun w n => { n with world := w }
  logs := sys.logs.zoom Noted.world fun w n => { n with world := w }
  client := sys.client.zoom Noted.world fun w n => { n with world := w }
  print text := Noted.silent (sys.print text)
  complain text := Noted.silent (sys.complain text)
  input := sys.input
  await := Noted.silent sys.await
  environment := sys.environment
  homes := sys.homes
  surroundings s := do return (← Noted.silent (sys.surroundings s)).noted

/-! ### The books -/

/-- Writing records leaves the books as they are. -/
theorem books_logged {α : Type} (sys : System σ) (a : Act (Host (Noted Host.Event σ)) α)
    (h : Host (Noted Host.Event σ)) :
    ((sys.noted.logged a).run h).world.books = (a.run h).world.books := by
  have hspares : (sys.noted.logs.zoom Host.world fun w h => { h with world := w }).Spares
      Host.books := ⟨fun _ _ => rfl, fun _ => rfl, fun _ _ => rfl⟩
  exact hspares.preserves_emitAll _ _

theorem ends_logged {α : Type} (sys : System σ) {a : Act (Host (Noted Host.Event σ)) α}
    {h : Host (Noted Host.Event σ)} {p : α → Books → Prop}
    (ha : a.Ends h fun x v => p x v.books) :
    (sys.noted.logged a).Ends h fun x v => p x v.books := by
  change p _ ((sys.noted.logged a).run h).world.books
  rw [books_logged]
  exact ha

theorem keeps_logged {α : Type} {a : Act (Host (Noted Host.Event σ)) α} (ha : Host.Keeps a) :
    Host.Keeps (sys.noted.logged a) :=
  fun h hopen => (books_logged sys a h).trans (ha h hopen)

theorem keeps_terminal (a : Act σ (Except Fault Unit)) :
    Host.Keeps (System.terminal (Noted.silent a)) :=
  Host.closed_keeps.bind (.of_preserves (Host.preserves_within (Host.preserves_silent a)))
    fun _ => Host.closed_keeps.pure _

theorem keeps_turn (text : String) : Host.Keeps (sys.noted.turn env.noted handle text) :=
  Host.closed_keeps.andThen (keeps_logged (Host.keeps_prompt handle _)) fun _ =>
    Host.closed_keeps.andThen (keeps_logged (Host.keeps_readResponse handle)) fun _ =>
      keeps_terminal _

/-- By induction on the length of the text that is still to be read. -/
theorem keeps_takeTurns (source : List Char) :
    Host.Keeps (sys.noted.takeTurns env.noted handle source) := by
  induction hn : source.length using Nat.strong_induction_on generalizing source with
  | _ n ih =>
    rw [System.takeTurns]
    refine Host.closed_keeps.andThen (keeps_terminal _) fun _ => ?_
    refine Host.closed_keeps.andThen (keeps_terminal _) fun _ => ?_
    by_cases hend : (Text.readLine source).1 = []
    · rw [dif_pos hend]
      exact Host.closed_keeps.pure _
    · have hrest := ih _ (hn ▸ Text.length_readLine_lt hend) _ rfl
      rw [dif_neg hend]
      dsimp only
      split_ifs
      · exact hrest
      · exact Host.closed_keeps.pure _
      · exact Host.closed_keeps.andThen (keeps_turn _) fun _ => hrest

theorem keeps_converse (r : ChatRequest) :
    Host.Keeps (sys.noted.converse env.noted handle r) := by
  refine Host.closed_keeps.andThen (keeps_logged (Host.keeps_setOptions handle _)) fun _ => ?_
  cases r.prompt with
  | some text => exact keeps_turn text
  | none => exact keeps_takeTurns _

/-- Whatever happens in a session, its provider has been shut down once when it ends. -/
theorem runSession_settled (sys : System σ) (env : Surroundings σ) (r : ChatRequest)
    (hstart : ∀ n v f, (((env.provider n).start env.config).run v).result ≠ .error (.fault f))
    {h : Host (Noted Host.Event σ)} (hh : h.books = .fresh) :
    (sys.noted.runSession env.noted r).Ends h fun _ v => v.books.Settled := by
  have hnext : h.registry.next = 1 := congrArg Books.next hh
  have hcheck (c : UrlCheck (Noted Host.Event σ)) (hc : some System.allowUrl = some c)
      (parts : Url.Parts) : (c parts).Preserves Noted.shutdowns := by
    cases hc
    exact fun _ => rfl
  have hset := Host.setModel_books (.text r.model) hcheck h (hstart h.made) (by rw [hnext]; decide)
  rw [hh] at hset
  refine (ends_logged sys (p := Books.fresh.Started) hset).andThen ?_ ?_
  · intro k v hstarted
    obtain ⟨rfl, hv⟩ : k = 1 ∧ v.books = Books.fresh.make.bind 0 := by
      generalize v.books = b at hstarted
      cases hstarted
      exact ⟨rfl, rfl⟩
    have hopen (n : Nat) : (v.leaseOf n).closed = false :=
      congrArg Lease.closed (congrFun (congrArg Books.leases hv) n)
    have hconversed : (sys.noted.converse env.noted 1 r).Ends v fun _ u => u.books = v.books :=
      keeps_converse r v hopen
    refine hconversed.bind fun result u hu => ?_
    have hbound : u.books.bindings 1 = some 0 := by
      rw [hu, hv]
      rfl
    have hclose : (sys.noted.logged (Host.close env.noted 1)).Ends u fun _ w =>
        w.books = (u.books.unbind 1).close 0 :=
      ends_logged sys (p := fun _ b => b = (u.books.unbind 1).close 0)
        (Host.close_books 1 u hbound)
    rw [hu, hv] at hclose
    refine hclose.bind fun closed w hw => ?_
    have hsettled : w.books.Settled := hw ▸ Books.settled_closed
    cases closed with
    | error e => exact hsettled
    | ok => exact hsettled
  · intro e v hstarted
    generalize v.books = b at hstarted ⊢
    cases hstarted with
    | refused => exact Books.settled_fresh
    | failed => exact Books.settled_failed

/-! ### The course -/

/-- What is done in a session: it is given its options, and then one text is told, or the lines of
what is put in. -/
inductive Conversation (input : String) (handle : Handle) (r : ChatRequest) :
    List Deed → Except (Failure HostError) Unit → Prop
  | unset (e : Failure HostError) :
      Conversation input handle r [.configures handle (System.optionsOf r) (.error e)] (.error e)
  | single (text : String) (hprompt : r.prompt = some text) (deeds : List Deed)
      (result : Except (Failure HostError) Unit) (h : Told handle text deeds result) :
      Conversation input handle r (.configures handle (System.optionsOf r) (.ok ()) :: deeds) result
  | dialogue (hprompt : r.prompt = none) (lines : List String)
      (hlines : Text.AreLines (lines.map String.toList) input.toList) (deeds : List Deed)
      (result : Except (Failure HostError) Unit) (h : Transcript handle lines deeds result) :
      Conversation input handle r (.configures handle (System.optionsOf r) (.ok ()) :: deeds) result

/-- What is done for a request: a session is started, and when this succeeds, it is closed after the
conversation, whatever that has come to. An error of the close counts before one of the
conversation. -/
inductive Course (input : String) (r : ChatRequest) :
    List Deed → Except (Failure HostError) Unit → Prop
  | refused (e : Failure HostError) : Course input r [.starts r.model (.error e)] (.error e)
  | led (handle : Handle) (deeds : List Deed) (result : Except (Failure HostError) Unit)
      (h : Conversation input handle r deeds result) (closed : Except (Failure HostError) Unit) :
      Course input r (.starts r.model (.ok handle) :: (deeds ++ [.closes handle closed]))
        (match closed with
          | .error e => .error e
          | .ok () => result)

theorem converse_led (sys : System σ) (env : Surroundings σ) (handle : Handle) (r : ChatRequest)
    (h : Host σ) :
    (sys.converse env handle r).Ends h fun result v =>
      ∃ deeds, Conversation sys.input handle r deeds result ∧ Led sys env deeds h v := by
  refine Act.Ends.andThen
    (p := fun x v => (Deed.configures handle (System.optionsOf r) x).Leads sys env h v)
    ⟨rfl, rfl⟩ (fun _ v hset => ?_) fun e v hset => ⟨_, .unset e, .cons hset (.nil _)⟩
  cases hprompt : r.prompt with
  | some text =>
    refine (turn_told sys env handle text v).imp ?_
    rintro result u ⟨deeds, htold, hled⟩
    exact ⟨_, .single text hprompt deeds result htold, .cons hset hled⟩
  | none =>
    obtain ⟨lines, hlines⟩ := Text.exists_areLines sys.input.toList
    refine (takeTurns_led sys env handle hlines v).imp ?_
    rintro result u ⟨deeds, htranscript, hled⟩
    exact ⟨_, .dialogue hprompt (lines.map String.ofList) (by simpa using hlines) deeds result
      htranscript, .cons hset hled⟩

theorem runSession_led (sys : System σ) (env : Surroundings σ) (r : ChatRequest) (h : Host σ) :
    (sys.runSession env r).Ends h fun result v =>
      ∃ deeds, Course sys.input r deeds result ∧ Led sys env deeds h v := by
  refine Act.Ends.andThen (p := fun x v => (Deed.starts r.model x).Leads sys env h v)
    ⟨rfl, rfl⟩ (fun handle v hstarted => ?_) fun e v hstarted =>
      ⟨_, .refused e, .cons hstarted (.nil _)⟩
  refine (converse_led sys env handle r v).bind ?_
  rintro result u ⟨deeds, hconversation, hled⟩
  refine Act.Ends.bind (p := fun x w => (Deed.closes handle x).Leads sys env u w) ⟨rfl, rfl⟩
    fun closed w hclosed => ?_
  have hall : Led sys env (.starts r.model (.ok handle) ::
      (deeds ++ [.closes handle closed])) h w :=
    .cons hstarted (hled.append (.cons hclosed (.nil _)))
  have hcourse := Course.led handle deeds result hconversation closed
  cases closed with
  | error e => exact ⟨_, hcourse, hall⟩
  | ok => exact ⟨_, hcourse, hall⟩

/-! ### The exit code -/

theorem Conversation.ok_iff {input : String} {r : ChatRequest} {deeds : List Deed}
    {result : Except (Failure HostError) Unit} (h : Conversation input handle r deeds result) :
    result = .ok () ↔ ∀ d ∈ deeds, d.Succeeds := by
  cases h with
  | unset e => simp [Deed.Succeeds, Except.isOk, Except.toBool]
  | single _ _ _ _ htold =>
    simp [Deed.Succeeds, Except.isOk, Except.toBool, htold.stops.good_iff]
  | dialogue _ _ _ _ _ htranscript =>
    simp [Deed.Succeeds, Except.isOk, Except.toBool, htranscript.stops.good_iff]

/-- A course comes to no error just when nothing in it fails. -/
theorem Course.ok_iff {input : String} {r : ChatRequest} {deeds : List Deed}
    {result : Except (Failure HostError) Unit} (h : Course input r deeds result) :
    result = .ok () ↔ ∀ d ∈ deeds, d.Succeeds := by
  cases h with
  | refused e => simp [Deed.Succeeds, Except.isOk, Except.toBool]
  | led handle deeds result hconversation closed =>
    cases closed <;>
      simp [Deed.Succeeds, Except.isOk, Except.toBool, hconversation.ok_iff,
        or_imp, forall_and]

/-- A message about a failure is told, and the command fails, unless it cannot be told. -/
theorem fail_told (sys : System σ) (message : String) (w : σ) :
    (sys.fail message).Ends w fun code v => ∃ told, code = told.map (fun _ => failure) ∧
      (sys.complain s!"error: {message}\n").Ends w fun r u => r = told ∧ v = u := by
  refine Act.Ends.andThen (p := fun told v =>
    (sys.complain s!"error: {message}\n").Ends w fun r u => r = told ∧ v = u) ⟨rfl, rfl⟩ ?_ ?_
  · exact fun _ v htold => ⟨.ok (), rfl, htold⟩
  · exact fun f v htold => ⟨.error f, rfl, htold⟩

/-- However the chat command ends, the provider that was made for it, if one was, has been shut down
once, and nothing stands under a handle; this asks of providers that their start comes to an error
of their own if it fails. The command succeeds just when all that is asked of the host and of the
terminal does, the close included. An error that leaves the session is told, and the command fails;
a fault passes through after the close. -/
theorem chat_settles (sys : System σ) (s : Settings) (r : ChatRequest) (w : σ)
    (hstart : ∀ n v f, (((((sys.surroundings s).run w).result.provider n).start
      ((sys.surroundings s).run w).result.config).run v).result ≠ .error (.fault f)) :
    (sys.noted.chat s r).Ends { world := ⟨w, []⟩ } fun code h =>
      h.made ≤ 1 ∧ (∀ n, h.world.shutdowns n = if n < h.made then 1 else 0) ∧
        (∀ k, h.registry.get? k = none) ∧
        ∃ deeds result v, Course sys.input r deeds result ∧
          Led sys.noted ((sys.surroundings s).run w).result.noted deeds
            { world := ⟨((sys.surroundings s).run w).world, []⟩ } v ∧
          (code = .ok success ↔ ∀ d ∈ deeds, d.Succeeds) ∧
          match result with
          | .ok () => code = .ok success ∧ h = v
          | .error (.known e) => ∃ told, code = told.map (fun _ => failure) ∧
              (sys.noted.complain s!"error: {e.line}\n").Ends v.world fun r w =>
                r = told ∧ h = { v with world := w }
          | .error (.fault f) => code = .error f ∧ h = v := by
  refine Act.Ends.bind (p := fun env v => env = ((sys.surroundings s).run w).result.noted ∧
    v = { world := ⟨((sys.surroundings s).run w).world, []⟩ }) ⟨rfl, rfl⟩ ?_
  rintro env v ⟨rfl, rfl⟩
  have hsettled := runSession_settled sys _ r hstart
    (h := { world := ⟨((sys.surroundings s).run w).world, []⟩ }) rfl
  have hled := runSession_led sys.noted ((sys.surroundings s).run w).result.noted r
    { world := ⟨((sys.surroundings s).run w).world, []⟩ }
  refine Act.Ends.bind (p := fun result v => v.books.Settled ∧
    ∃ deeds, Course sys.input r deeds result ∧
      Led sys.noted ((sys.surroundings s).run w).result.noted deeds
      { world := ⟨((sys.surroundings s).run w).world, []⟩ } v) ⟨hsettled, hled⟩ ?_
  rintro result v ⟨hv, deeds, hcourse, hled⟩
  have hleft {u : Host (Noted Host.Event σ)} (hu : u.books = v.books) :
      u.made ≤ 1 ∧ (∀ n, u.world.shutdowns n = if n < u.made then 1 else 0) ∧
        ∀ k, u.registry.get? k = none := by
    rw [← hu] at hv
    exact ⟨hv.made, hv.shutdowns, fun k => Option.map_eq_none_iff.1 (hv.bindings k)⟩
  have hcode := hcourse.ok_iff
  rcases result with (e | f) | ⟨⟩
  · have htold : (Host.within (sys.noted.fail e.line)).Ends v fun code u =>
        u.books = v.books ∧ ∃ told, code = told.map (fun _ => failure) ∧
          (sys.noted.complain s!"error: {e.line}\n").Ends v.world fun r w =>
            r = told ∧ u = { v with world := w } := by
      refine ⟨?_, ?_⟩
      · have hfail : (sys.noted.fail e.line).Preserves Noted.shutdowns :=
          (Host.preserves_silent (sys.complain s!"error: {e.line}\n")).andThen fun _ =>
            Act.preserves_pure _
        exact Host.preserves_within hfail v
      · obtain ⟨told, hcode, htold, hworld⟩ := fail_told sys.noted e.line v.world
        exact ⟨told, hcode, htold, congrArg (fun w => { v with world := w }) hworld⟩
    obtain ⟨hkept, htold⟩ := htold
    obtain ⟨hmade, hshutdowns, hregistry⟩ := hleft hkept
    refine ⟨hmade, hshutdowns, hregistry, deeds, _, v, hcourse, hled, ?_, htold⟩
    rw [← hcode]
    refine iff_of_false ?_ fun h => nomatch h
    obtain ⟨told, htold, -⟩ := htold
    rw [htold]
    cases told <;> exact nofun
  · obtain ⟨hmade, hshutdowns, hregistry⟩ := hleft rfl
    refine ⟨hmade, hshutdowns, hregistry, deeds, _, v, hcourse, hled, ?_, rfl, rfl⟩
    rw [← hcode]
    exact iff_of_false (fun h => nomatch h) fun h => nomatch h
  · obtain ⟨hmade, hshutdowns, hregistry⟩ := hleft rfl
    refine ⟨hmade, hshutdowns, hregistry, deeds, _, v, hcourse, hled, ?_, rfl, rfl⟩
    exact iff_of_true rfl (hcode.1 rfl)

/-- A system whose world is the text that has been written. Its first provider can be started, and
does not answer. -/
def notebook : System String where
  files := ⟨fun _ => {}, fun _ text => text⟩
  logs :=
    { get := fun _ => {}
      set := fun _ text => text
      files := ⟨fun _ => {}, fun _ text => text⟩
      now := return ""
      console := fun _ => return () }
  client := ⟨.standard, fun _ => return .error ⟨.transport, "refused"⟩⟩
  print more := do
    Act.modify fun text => text ++ more
    return .ok ()
  complain more := do
    Act.modify fun text => text ++ more
    return .ok ()
  input := " \nhello\n/exit\n"
  await := return .ok ()
  environment := []
  homes := .of ⟨.absolute, ["home", "guest"]⟩
  surroundings _ := return Traffic.oneServer.zoom (fun _ => ()) fun _ text => text

theorem chat_settles_unanswered :
    (notebook.noted.chat (.standard ⟨.absolute, ["home", "guest"]⟩)
      { model := "gemma-2-2b-it" }).Ends
      { world := ⟨"", []⟩ } fun code h => code = .ok failure ∧ h.made = 1 ∧
        h.world.world = "> > error: [model_completion_failed] closed\n" ∧
        h.world.shutdowns 0 = 1 ∧ ∀ k, h.registry.get? k = none := by
  obtain ⟨-, hshutdowns, hregistry, -⟩ := chat_settles notebook
    (.standard ⟨.absolute, ["home", "guest"]⟩) { model := "gemma-2-2b-it" } "" fun n v f h => by
      change (if n = 0 then .ok () else .error (.known ⟨.server, "no port"⟩) :
        Except (Failure ProviderError) Unit) = .error (.fault f) at h
      split_ifs at h
      cases h
  refine ⟨by decide +kernel, by decide +kernel, by decide +kernel, ?_, hregistry⟩
  rw [hshutdowns]
  decide +kernel

end Cli

end ChatHost
