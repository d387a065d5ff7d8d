import ChatHost.Model.Select
import ChatHost.Provider.Lease
import ChatHost.Registry
import ChatHost.Schema.Validator
import ChatHost.Session
import ChatHost.Tool.Prompt
import ChatHost.Tool.Transport

/-!
The host: sessions by handle, the leases on their providers, and the outside world. Providers are
known by the order in which they were made.
-/

namespace ChatHost

/-- A text that a caller passes, perhaps as bytes. -/
inductive Input where
  | text (s : String)
  | bytes (b : Text.Bytes)

/-- The text of an input that is called by the given name in an error. -/
def Input.decode (what : String) : Input → Except HostError String
  | .text s => .ok s
  | .bytes b =>
    match Text.decodeUtf8 b with
    | .ok s => .ok (String.ofList s)
    | .error f => .error ⟨.notUtf8, s!"{what} is not valid UTF-8", some (.encoding f)⟩

/-- What a host finds in the outside world: the rules in force, the day, the way to tools with the
validator of their arguments, and providers by their numbers. -/
structure Surroundings (σ : Type) where
  policy : Model.Policy := .standard
  config : ServerConfig := {}
  today : Act σ Date
  validator : Schema.Validator
  transport : Tool.Transport σ
  /-- Makes the provider with the given number. -/
  make : Nat → Model → Act σ (Except Fault Unit)
  provider : Nat → Provider σ

/-- What a host finds in a part of a larger world. -/
def Surroundings.zoom {σ τ : Type} (get : τ → σ) (set : σ → τ → τ) (env : Surroundings σ) :
    Surroundings τ where
  policy := env.policy
  config := env.config
  today := env.today.zoom get set
  validator := env.validator
  transport := env.transport.zoom get set
  make number m := (env.make number m).zoom get set
  provider number := (env.provider number).zoom get set

structure Host (σ : Type) where
  registry : Registry Session := {}
  leases : OrderedMap Nat Lease := []
  /-- How many providers have been made. -/
  made : Nat := 0
  world : σ

namespace Host

variable {σ α : Type}

def logger : String :=
  "driver"

/-- Runs a step in the outside world. -/
def within (a : Act σ α) : Act (Host σ) α :=
  a.zoom Host.world fun w h => { h with world := w }

def leaseOf (h : Host σ) (provider : Nat) : Lease :=
  (OrderedMap.get? h.leases provider).getD {}

def leasePlace (provider : Nat) : Lease.Place (Host σ) where
  get h := h.leaseOf provider
  set l h := { h with leases := OrderedMap.put provider l h.leases }

def shutdown (env : Surroundings σ) (provider : Nat) :
    Act (Host σ) (Except (Failure ProviderError) Unit) :=
  within (env.provider provider).shutdown

def unknownHandle (handle : Handle) : HostError :=
  ⟨.modelNotSet, s!"Unknown handle {handle}", none⟩

def look (handle : Handle) (f : Session → α) :
    Act (Host σ) (Except (Failure HostError) α) :=
  .read fun h =>
    match h.registry.look handle f with
    | some a => .ok a
    | none => .error (.known (unknownHandle handle))

def change (handle : Handle) (f : Session → Session) :
    Act (Host σ) (Except (Failure HostError) Unit) :=
  .ofWorld fun h =>
    match h.registry.change handle fun s => ((), f s) with
    | (some (), r) => (.ok (), { h with registry := r })
    | (none, _) => (.error (.known (unknownHandle handle)), h)

def addMessage (handle : Handle) (m : Message) :
    Act (Host σ) (Except (Failure HostError) Unit) :=
  change handle fun s => s.addMessage m

def getModel (handle : Handle) : Act (Host σ) (Except (Failure HostError) String) :=
  look handle Session.modelName

def getOptions (handle : Handle) : Act (Host σ) (Except (Failure HostError) String) :=
  look handle fun s => s.options.text

/-- Adds what a user says to a session's conversation. -/
def prompt (handle : Handle) (text : Input) : Act (Host σ) (Except (Failure HostError) Unit) :=
  match text.decode "prompt" with
  | .error e => return .error (.known e)
  | .ok s => addMessage handle ⟨.user, s⟩

end Host

end ChatHost
