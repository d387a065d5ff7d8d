import ChatHost.Provider.Basic

/-!
Providers that follow a script: how they start and shut down, and what they reply in turn. They keep
what they are asked.
-/

namespace ChatHost.Scripted

inductive Reply where
  | message (m : Message String)
  | fails (e : Failure ProviderError)

/-- A scripted provider, and what has happened at it so far. -/
structure ProviderScript where
  startFailure : Option (Failure ProviderError) := none
  shutdownFailure : Option (Failure ProviderError) := none
  replies : List Reply := []
  config : Option ServerConfig := none
  asked : List Request := []
  shutdowns : Nat := 0

namespace ProviderScript

/-- The end of a step that fails in the given way, if any. -/
def ending (failure : Option (Failure ProviderError)) : Except (Failure ProviderError) Unit :=
  match failure with
  | none => .ok ()
  | some e => .error e

def next (s : ProviderScript) : Except (Failure ProviderError) (Message String) :=
  match s.replies with
  | [] => .ok ⟨.assistant, "ok"⟩
  | .message m :: _ => .ok m
  | .fails e :: _ => .error e

def provider : Provider ProviderScript where
  start config := .ofWorld fun s => (ending s.startFailure, { s with config := some config })
  ask request := .modify fun s => { s with asked := s.asked ++ [request] }
  answer _ := .ofWorld fun s => (s.next, { s with replies := s.replies.drop 1 })
  shutdown := .ofWorld fun s => (ending s.shutdownFailure, { s with shutdowns := s.shutdowns + 1 })

end ProviderScript

end ChatHost.Scripted
