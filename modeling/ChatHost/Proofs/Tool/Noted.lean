import ChatHost.Proofs.Agree
import ChatHost.Proofs.Noted
import ChatHost.Proofs.Tool.Outcome

set_option autoImplicit false

/-!
Taking notes of the way to tools changes nothing but the notes: a function call comes to the same,
and leaves the world behind the notes the same, as where none are taken.
-/

namespace ChatHost.Tool

variable {ε σ τ α : Type} {r : σ → τ → Prop} {judge : Schema.Validator} {t : Transport σ}
  {u : Transport τ}

/-- Whether two ways to tools go the same way in the session of a call. -/
structure Transport.Agree (r : σ → τ → Prop) (t : Transport σ) (u : Transport τ) : Prop where
  connect (endpoint : Text.Letters) : Act.Agree r Eq (t.connect endpoint) (u.connect endpoint)
  call (endpoint : Text.Letters) (name : String) (arguments : Option (List (String × Json))) :
    Act.Agree r Eq (t.call endpoint name arguments) (u.call endpoint name arguments)
  close (endpoint : Text.Letters) : Act.Agree r Eq (t.close endpoint) (u.close endpoint)

/-- Whether two ways to tools go the same way in the session of a search. -/
structure Transport.Offers (r : σ → τ → Prop) (t : Transport σ) (u : Transport τ) : Prop where
  connect (endpoint : Text.Letters) : Act.Agree r Eq (t.connect endpoint) (u.connect endpoint)
  list (endpoint : Text.Letters) : Act.Agree r Eq (t.list endpoint) (u.list endpoint)
  close (endpoint : Text.Letters) : Act.Agree r Eq (t.close endpoint) (u.close endpoint)

theorem agree_afterLog {level : Level} {logger message : String} {f : Unit → Act σ α}
    {g : Unit → Act τ α} (h : Act.Agree r Eq (f ()) (g ())) :
    Act.Agree r Eq (Act.log level logger message >>= f) (Act.log level logger message >>= g) :=
  Act.Agree.bind (Act.agree_log level level logger logger message message) fun _ _ _ => h

theorem agree_withSession {endpoint : Text.Letters} {a : Act σ (Except Fault α)}
    {b : Act τ (Except Fault α)}
    (hconnect : Act.Agree r Eq (t.connect endpoint) (u.connect endpoint))
    (hab : Act.Agree r Eq a b) (hclose : Act.Agree r Eq (t.close endpoint) (u.close endpoint)) :
    Act.Agree r Eq (t.withSession endpoint a) (u.withSession endpoint b) := by
  refine hconnect.bind fun opened _ hopened => ?_
  subst hopened
  cases opened with
  | error f => exact Act.agree_pure rfl
  | ok =>
    refine hab.bind fun answer _ hanswer => ?_
    subst hanswer
    refine hclose.bind fun closed _ hclosed => ?_
    subst hclosed
    cases closed <;> exact Act.agree_pure rfl

theorem agree_parseCall (candidate : List Char) :
    Act.Agree r Eq (parseCall candidate) (parseCall candidate) := by
  unfold parseCall
  split
  · exact Act.agree_pure rfl
  · exact agree_afterLog (Act.agree_pure rfl)
  · exact Act.agree_pure rfl

theorem agree_checkArguments (schema arguments : Json) :
    Act.Agree r Eq (checkArguments judge schema arguments)
      (checkArguments judge schema arguments) := by
  unfold checkArguments
  split
  · exact Act.agree_pure rfl
  · split
    · exact Act.agree_pure rfl
    · exact agree_afterLog (Act.agree_pure rfl)
    · split <;> exact Act.agree_pure rfl

theorem agree_callTool (h : t.Agree r u) (tools : Tools) (call : FunctionCall) :
    Act.Agree r Eq (callTool judge t tools call) (callTool judge u tools call) := by
  unfold callTool
  split
  · exact Act.agree_pure rfl
  · refine (agree_checkArguments _ _).bind fun checked _ hchecked => ?_
    subst hchecked
    cases checked with
    | error e => exact Act.agree_pure rfl
    | ok =>
      refine agree_afterLog (agree_afterLog ?_)
      refine (agree_withSession (h.connect _) (h.call _ _ _) (h.close _)).bind
        fun answer _ hanswer => ?_
      subst hanswer
      cases answer <;> exact Act.agree_pure rfl

theorem agree_processText (h : t.Agree r u) (tools : Tools) (text : String) :
    Act.Agree r Eq (processText judge t tools text) (processText judge u tools text) := by
  refine agree_afterLog ?_
  split
  · exact Act.agree_pure rfl
  · refine (agree_parseCall _).bind fun parsed _ hparsed => ?_
    subst hparsed
    rcases parsed with f | _ | call
    · exact Act.agree_pure rfl
    · exact Act.agree_pure rfl
    · refine agree_afterLog ?_
      refine (agree_callTool h tools call).bind fun result _ hresult => ?_
      subst hresult
      rcases result with (e | f) | output
      · exact agree_afterLog (Act.agree_pure rfl)
      · exact Act.agree_pure rfl
      · exact agree_afterLog (Act.agree_pure rfl)

/-- Whether a world in which notes are taken is another world with some more notes. -/
def Annotates (f : Event → ε) (notes : List ε) (n : Noted ε σ) (w : σ) : Prop :=
  n.world = w ∧ ∃ es : List Event, n.notes = notes ++ es.map f

theorem agree_noting {f : Event → ε} {notes : List ε} (e : Event) (a : Act σ α) :
    Act.Agree (Annotates f notes) Eq (Noted.noting (f e) a) a := by
  rintro n w ⟨rfl, es, hes⟩
  refine ⟨rfl, rfl, es ++ [e], ?_⟩
  have hnotes : ((Noted.noting (f e) a).run n).world.notes = n.notes ++ [f e] := rfl
  rw [hnotes, hes]
  simp

theorem agree_noted (t : Transport σ) (f : Event → ε) (notes : List ε) :
    (t.noted f).Agree (Annotates f notes) t where
  connect _ := agree_noting _ _
  call _ _ _ := agree_noting _ _
  close _ := agree_noting _ _

/-- A text is processed where notes are taken: of nothing, where it holds no function call. -/
theorem processText_noted (judge : Schema.Validator) (t : Transport σ) (f : Event → ε)
    (tools : Tools) (text : String)
    (n : Noted ε σ) :
    (processText judge (t.noted f) tools text).Ends n fun result v =>
      result = ((processText judge t tools text).run n.world).result ∧
        ∃ es : List Event, v.notes = n.notes ++ es.map f ∧ (result = .ok .noCall → es = []) := by
  obtain ⟨hresult, -, es, hnotes⟩ :=
    agree_processText (agree_noted t f n.notes) tools text n n.world ⟨rfl, [], by simp⟩
  -- that the two agree leaves open which notes there are; without a call the world stays as it is
  by_cases hcall : ((processText judge (t.noted f) tools text).run n).result = .ok .noCall
  · have hunheld := (processText_noCall_iff.1 hcall).1
    have hsame : ((processText judge (t.noted f) tools text).run n).world = n :=
      (processText_unheld judge (t.noted f) tools hunheld n).1
    refine ⟨hresult, [], ?_, fun _ => rfl⟩
    rw [hsame]
    simp
  · exact ⟨hresult, es, hnotes, fun h => absurd h hcall⟩

end ChatHost.Tool
