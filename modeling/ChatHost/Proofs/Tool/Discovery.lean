import ChatHost.Proofs.OrderedMap
import ChatHost.Proofs.Tool.Frame

set_option autoImplicit false

/-!
What a search for tools finds: of the endpoints whose tools could be listed, the last one that
offers a name serves it.
-/

namespace ChatHost.Tool

variable {σ : Type}

/-- The endpoint of a tool and whether it can be called, by the name of the tool. -/
def serving (tools : Tools) (n : String) : Option (Text.Letters × Bool) :=
  (OrderedMap.get? tools n).map fun tool => (tool.endpoint, tool.reachable)

theorem ofOffer_ok {endpoint : Text.Letters} {offer : Json} {tool : Tool}
    (h : ofOffer endpoint offer = .ok tool) :
    (offer.attribute? "name").map Json.toText = some tool.name ∧ tool.endpoint = endpoint ∧
      tool.reachable = true := by
  unfold ofOffer at h
  split at h
  · exact absurd h (by simp)
  · next name hname =>
    obtain rfl := Except.ok.inj h
    exact ⟨by rw [hname]; rfl, rfl, rfl⟩

theorem takeOffer_ok {endpoint : Text.Letters} {offer : Json} {tool : Tool}
    (h : ofOffer endpoint offer = .ok tool) (tools : Tools) (w : σ) :
    ((takeOffer endpoint tools offer).run w).result = OrderedMap.put tool.name tool tools := by
  rw [takeOffer, h]
  dsimp only
  split <;> rfl

theorem takeOffer_error {endpoint : Text.Letters} {offer : Json} {f : Fault}
    (h : ofOffer endpoint offer = .error f) (tools : Tools) (w : σ) :
    ((takeOffer endpoint tools offer).run w).result = tools := by
  rw [takeOffer, h]
  rfl

theorem within_takeOffer {d : Text.Letters → Prop} {endpoint : Text.Letters} (hd : d endpoint)
    {tools : Tools}
    (htools : Within d tools) (offer : Json) (w : σ) :
    Within d ((takeOffer endpoint tools offer).run w).result := by
  cases hoffer : ofOffer endpoint offer with
  | error f =>
    rw [takeOffer_error hoffer]
    exact htools
  | ok tool =>
    rw [takeOffer_ok hoffer]
    intro name found hfound
    rw [OrderedMap.get?_put] at hfound
    split_ifs at hfound with hname
    · cases hfound
      exact (ofOffer_ok hoffer).2.1.symm ▸ hd
    · exact htools name found hfound

theorem within_takeOffers {d : Text.Letters → Prop} {endpoint : Text.Letters} (hd : d endpoint)
    {tools : Tools} (htools : Within d tools) (offers : List Json) (w : σ) :
    Within d ((takeOffers endpoint tools offers).run w).result := by
  induction offers generalizing tools w with
  | nil => exact htools
  | cons offer offers ih => exact ih (within_takeOffer hd htools offer w) _

/-- A search finds tools at the endpoints that it goes to. -/
theorem within_visit {t : Transport σ} {d : Text.Letters → Prop} {text : Text.Letters}
    (hd : ∀ endpoint, endpoint? text = some endpoint → d endpoint) {tools : Tools}
    (htools : Within d tools) (w : σ) : Within d ((visit t tools text).run w).result := by
  show (visit t tools text).Ends w fun found _ => Within d found
  unfold visit
  split
  · exact htools
  · rename_i endpoint hendpoint
    refine Act.Ends.bind (p := fun _ _ => True) trivial fun listed v _ => ?_
    cases listed with
    | error f => exact htools
    | ok offers => exact within_takeOffers (hd endpoint hendpoint) htools offers v

end ChatHost.Tool
