import ChatHost.Proofs.Act
import ChatHost.Tool.Call
import ChatHost.Tool.Discovery

set_option autoImplicit false

/-!
At which endpoints tools are reached. A search for tools goes to the endpoints that it is given, and
a function call to the endpoint of one of the tools: what holds of all that the way to tools does
there, and goes through the ways in which steps are put together, holds of the search and of the
call.
-/

namespace ChatHost.Tool

variable {σ α : Type} {p : (α : Type) → Act σ α → Prop} {judge : Schema.Validator} {t : Transport σ}

/-- Whether all that the way to tools does at an endpoint has a property. -/
structure Transport.At (p : (α : Type) → Act σ α → Prop) (t : Transport σ)
    (endpoint : Text.Letters) :
    Prop where
  connect : p _ (t.connect endpoint)
  list : p _ (t.list endpoint)
  call (name : String) (arguments : Option (List (String × Json))) :
    p _ (t.call endpoint name arguments)
  close : p _ (t.close endpoint)

theorem closed_withSession (hp : Act.Closed p) {endpoint : Text.Letters} (ht : t.At p endpoint)
    {use : Act σ (Except Fault α)} (huse : p _ use) : p _ (t.withSession endpoint use) := by
  refine hp.bind ht.connect fun opened => ?_
  cases opened with
  | error f => exact hp.pure _
  | ok =>
    refine hp.bind huse fun answer => hp.bind ht.close fun closed => ?_
    cases closed <;> exact hp.pure _

theorem closed_takeOffer (hp : Act.Closed p) (endpoint : Text.Letters) (tools : Tools)
    (offer : Json) :
    p _ (takeOffer endpoint tools offer) := by
  unfold takeOffer
  split
  · exact hp.bind (hp.write _) fun _ => hp.pure _
  · split
    · exact hp.bind (hp.pure _) fun _ => hp.pure _
    · exact hp.bind (hp.write _) fun _ => hp.pure _

theorem closed_takeOffers (hp : Act.Closed p) (endpoint : Text.Letters) (tools : Tools)
    (offers : List Json) : p _ (takeOffers endpoint tools offers) := by
  induction offers generalizing tools with
  | nil => exact hp.pure _
  | cons offer offers ih => exact hp.bind (closed_takeOffer hp endpoint tools offer) fun _ => ih _

theorem closed_visit (hp : Act.Closed p) {text : Text.Letters}
    (ht : ∀ endpoint, endpoint? text = some endpoint → t.At p endpoint) (tools : Tools) :
    p _ (visit t tools text) := by
  unfold visit
  split
  · exact hp.bind (hp.write _) fun _ => hp.pure _
  · rename_i endpoint hendpoint
    have hat := ht endpoint hendpoint
    refine hp.bind (closed_withSession hp hat hat.list) fun listed => ?_
    cases listed with
    | error f => exact hp.bind (hp.write _) fun _ => hp.pure _
    | ok offers =>
      refine hp.bind (closed_takeOffers hp endpoint tools offers) fun _ => ?_
      exact hp.bind (hp.write _) fun _ => hp.pure _

theorem closed_parseCall (hp : Act.Closed p) (candidate : List Char) :
    p _ (parseCall candidate) := by
  unfold parseCall
  split
  · exact hp.pure _
  · exact hp.bind (hp.write _) fun _ => hp.pure _
  · exact hp.pure _

theorem closed_checkArguments (hp : Act.Closed p) (schema arguments : Json) :
    p _ (checkArguments judge schema arguments) := by
  unfold checkArguments
  split
  · exact hp.pure _
  · split
    · exact hp.pure _
    · exact hp.bind (hp.write _) fun _ => hp.pure _
    · split <;> exact hp.pure _

def Within (d : Text.Letters → Prop) (tools : Tools) : Prop :=
  ∀ name tool, OrderedMap.get? tools name = some tool → d tool.endpoint

theorem within_nil (d : Text.Letters → Prop) : Within d [] :=
  fun _ _ h => by cases h

theorem closed_callTool (hp : Act.Closed p) {tools : Tools} (ht : Within (t.At p) tools)
    (call : FunctionCall) : p _ (callTool judge t tools call) := by
  unfold callTool
  split
  · exact hp.pure _
  · rename_i tool htool
    have hat : t.At p tool.endpoint :=
      ht call.name tool (Option.filter_eq_some_iff.1 htool).1
    refine hp.bind (closed_checkArguments hp _ _) fun checked => ?_
    cases checked with
    | error e => exact hp.pure _
    | ok =>
      refine hp.bind (hp.write _) fun _ => hp.bind (hp.write _) fun _ => ?_
      refine hp.bind (closed_withSession hp hat (hat.call _ _)) fun answer => ?_
      cases answer <;> exact hp.pure _

theorem closed_processText (hp : Act.Closed p) {tools : Tools} (ht : Within (t.At p) tools)
    (text : String) : p _ (processText judge t tools text) := by
  refine hp.bind (hp.write _) fun _ => ?_
  split
  · exact hp.pure _
  · refine hp.bind (closed_parseCall hp _) fun parsed => ?_
    rcases parsed with f | _ | call
    · exact hp.pure _
    · exact hp.pure _
    · refine hp.bind (hp.write _) fun _ => hp.bind (closed_callTool hp ht call) fun result => ?_
      rcases result with (e | f) | output
      · exact hp.bind (hp.write _) fun _ => hp.pure _
      · exact hp.pure _
      · exact hp.bind (hp.write _) fun _ => hp.pure _

end ChatHost.Tool
