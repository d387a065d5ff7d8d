import ChatHost.Http.Client
import ChatHost.Proofs.Act
import Mathlib.Data.List.Infix

set_option autoImplicit false

/-!
Bodies in pieces, and what is known of the response to a request when it is known of every response
that is no redirect.
-/

namespace ChatHost.Http

theorem flatten_chunks (size : Nat) (bytes : Text.Bytes) : (chunks size bytes).flatten = bytes := by
  induction bytes using chunks.induct size with
  | case1 => rw [chunks, List.flatten_nil]
  | case2 b rest ih =>
    rw [chunks, List.flatten_cons, ih, List.cons_append, List.take_append_drop]

/-- When only complete pieces arrive, they are those at the head of the bytes. -/
theorem flatten_filter_chunks (size : Nat) (bytes : Text.Bytes) :
    ((chunks size bytes).filter fun piece => max 1 size ≤ piece.length).flatten <+: bytes := by
  induction bytes using chunks.induct size with
  | case1 => rw [chunks, List.filter_nil, List.flatten_nil]
  | case2 b rest ih =>
    rw [chunks]
    by_cases hfull : max 1 size ≤ (b :: rest.take (size - 1)).length
    · rw [List.filter_cons_of_pos (by simpa using hfull), List.flatten_cons, List.cons_append]
      have hbytes := List.take_append_drop (size - 1) rest
      conv_rhs => rw [← hbytes]
      exact (List.prefix_append_right_inj (b :: rest.take (size - 1))).2 ih
    · have hshort : rest.length ≤ size - 1 := by
        simp only [List.length_cons, List.length_take] at hfull
        omega
      rw [List.filter_cons_of_neg (by simpa using hfull), List.drop_of_length_le hshort, chunks]
      exact List.nil_prefix

theorem Body.pieces_prefix (size : Nat) (b : Body) : (b.pieces size).flatten <+: b.bytes := by
  rw [Body.pieces]
  split
  · rw [flatten_chunks]
  · exact flatten_filter_chunks size b.bytes

theorem Body.pieces_whole (size : Nat) {b : Body} (h : b.cut = none) :
    (b.pieces size).flatten = b.bytes := by
  rw [Body.pieces, h]
  exact flatten_chunks size b.bytes

variable {σ γ : Type} {c : Client σ}

theorem preserves_follow {f : σ → γ} (h : ∀ r, (c.send r).Preserves f) (left : Nat) (r : Request) :
    (c.follow left r).Preserves f := by
  induction left generalizing r with
  | zero => exact Act.preserves_pure _
  | succ left ih =>
    refine (h r).bind ?_
    rintro (e | response)
    · exact Act.preserves_pure _
    · dsimp only
      split
      · exact Act.preserves_pure _
      · exact Act.preserves_pure _
      · exact Act.preserves_pure _
      · exact ih _

theorem preserves_request {f : σ → γ} (h : ∀ r, (c.send r).Preserves f) (r : Request) :
    (c.request r).Preserves f := by
  rw [Client.request]
  split
  · exact Act.preserves_pure _
  · exact preserves_follow h _ _

/-- What holds of every response that is no redirect holds of the response that is given in the
end. -/
theorem ends_follow {p : Method → Option Nat → Response → Prop}
    (hsend : ∀ r w, (c.send r).Ends w fun answer _ =>
      ∀ response, answer = .ok response →
        (c.rules.next? r response).isSome ∨ p r.method r.offset response)
    (left : Nat) {r : Request} (hr : r.method ≠ .post) (w : σ) :
    (c.follow left r).Ends w fun answer _ =>
      ∀ response, answer = .ok response → p r.method r.offset response := by
  induction left generalizing r w with
  | zero => exact fun response h => by cases h
  | succ left ih =>
    refine Act.Ends.bind (hsend r w) ?_
    rintro (e | response) v hresponse
    · exact fun response h => by cases h
    · dsimp only
      split
      · rename_i hnone
        intro given h
        obtain rfl := Except.ok.inj h
        exact (hresponse response rfl).resolve_left (by simp [hnone])
      · exact fun response h => by cases h
      · exact fun response h => by cases h
      · rename_i r' hnext _
        obtain ⟨hmethod, hoffset⟩ := c.rules.keeps hr hnext
        have hleft := ih (r := r') (by rwa [hmethod]) v
        rwa [hmethod, hoffset] at hleft

theorem ends_request {p : Method → Option Nat → Response → Prop}
    (hsend : ∀ r w, (c.send r).Ends w fun answer _ =>
      ∀ response, answer = .ok response →
        (c.rules.next? r response).isSome ∨ p r.method r.offset response)
    {r : Request} (hr : r.method ≠ .post) (w : σ) :
    (c.request r).Ends w fun answer _ =>
      ∀ response, answer = .ok response → p r.method r.offset response := by
  rw [Client.request]
  split
  · exact fun response h => by cases h
  · exact ends_follow hsend _ (r := { r with url := c.rules.sent r.url }) hr w

end ChatHost.Http
