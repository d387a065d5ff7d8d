import ChatHost.Log
import ChatHost.Tool.Basic

/-!
How tools are reached. A session at an endpoint is opened, asked for tools or for one call, and
closed; each of these may fail in any way.
-/

namespace ChatHost.Tool

/-- The way to remote tools in an outside world. -/
structure Transport (σ : Type) where
  /-- Opens a session at an endpoint. -/
  connect : Text.Letters → Act σ (Except Fault Unit)
  /-- The tools that an open session offers. -/
  list : Text.Letters → Act σ (Except Fault (List Json))
  /-- Calls a tool in an open session. -/
  call : Text.Letters → String → Option (List (String × Json)) → Act σ (Except Fault Json)
  /-- Closes a session. -/
  close : Text.Letters → Act σ (Except Fault Unit)

/-- Uses a session at an endpoint. A session that was opened is closed, also after a failure; a
failure to close it counts like one to use it. -/
def Transport.withSession {σ α : Type} (t : Transport σ) (endpoint : Text.Letters)
    (use : Act σ (Except Fault α)) : Act σ (Except Fault α) := do
  match ← t.connect endpoint with
  | .error f => return .error f
  | .ok () =>
    let answer ← use
    match ← t.close endpoint with
    | .error f => return .error f
    | .ok () => return answer

/-- The way to tools in a part of a larger world. -/
def Transport.zoom {σ τ : Type} (get : τ → σ) (set : σ → τ → τ) (t : Transport σ) :
    Transport τ where
  connect endpoint := (t.connect endpoint).zoom get set
  list endpoint := (t.list endpoint).zoom get set
  call endpoint name arguments := (t.call endpoint name arguments).zoom get set
  close endpoint := (t.close endpoint).zoom get set

end ChatHost.Tool
