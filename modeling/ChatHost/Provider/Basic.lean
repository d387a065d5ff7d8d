import ChatHost.Fault
import ChatHost.Log
import ChatHost.Message

/-!
Providers: whatever completes conversations for a session.
-/

namespace ChatHost

/-- Where an inference server listens, and how long a request to it may take. The values come from
settings, which may be of any kind. -/
structure ServerConfig where
  host : Json := .str "127.0.0.1"
  port : Json := .ofInt 8080
  timeout : Json := .ofReal 30.0

def ServerConfig.baseUrl (c : ServerConfig) : String :=
  s!"http://{c.host.toText}:{c.port.toText}"

/-- A request for a completion: the conversation so far, and the two numbers that steer the
answer. -/
structure Request where
  messages : List Message
  temperature : Option Number := none
  topP : Option Number := none

structure Provider (σ : Type) where
  /-- Brings the provider to the state in which it serves. -/
  start : ServerConfig → Act σ (Except (Failure ProviderError) Unit)
  /-- Sends a request out. -/
  ask : Request → Act σ Unit
  /-- Waits for the answer to a request that has been sent out. -/
  answer : Request → Act σ (Except (Failure ProviderError) (Message String))
  /-- Releases what the provider holds. -/
  shutdown : Act σ (Except (Failure ProviderError) Unit)

def Provider.chat {σ : Type} (p : Provider σ) (r : Request) :
    Act σ (Except (Failure ProviderError) (Message String)) := do
  p.ask r
  p.answer r

def Provider.zoom {σ τ : Type} (get : τ → σ) (set : σ → τ → τ) (p : Provider σ) : Provider τ where
  start config := (p.start config).zoom get set
  ask r := (p.ask r).zoom get set
  answer r := (p.answer r).zoom get set
  shutdown := p.shutdown.zoom get set

end ChatHost
