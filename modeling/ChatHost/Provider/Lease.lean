import ChatHost.Provider.Basic

/-!
Leases on a provider. Calls in flight hold leases; closing a provider shuts it down at once when no
lease is held, and leaves it to the release of the last lease otherwise.
-/

namespace ChatHost

/-- How many leases are held on a provider, and whether it has been closed. -/
structure Lease where
  count : Nat := 0
  closed : Bool := false
  deriving DecidableEq, Repr

namespace Lease

inductive Closing where
  /-- The provider was closed before. -/
  | already
  /-- Leases are held; the last one to be released shuts the provider down. -/
  | deferred (count : Nat)
  /-- The provider is to be shut down. -/
  | now
  deriving DecidableEq, Repr

def acquire (l : Lease) : Lease :=
  { l with count := l.count + 1 }

/-- Gives a lease back; a release too many leaves none. -/
def release (l : Lease) : Lease :=
  { l with count := l.count - 1 }

/-- Whether a release that leads here has to shut the provider down. -/
def isDue (l : Lease) : Bool :=
  l.closed && l.count = 0

def close (l : Lease) : Lease :=
  { l with closed := true }

def closing (l : Lease) : Closing :=
  if l.closed then .already else if l.count = 0 then .now else .deferred l.count

def logger : String :=
  "providers.base"

variable {σ : Type}

/-- Shuts a provider down after the last release. An error of the provider is only recorded. -/
def deferredShutdown (shutdown : Act σ (Except (Failure ProviderError) Unit)) :
    Act σ (Except Fault Unit) := do
  Act.log .debug logger "Last lease released; shutting down deferred provider"
  match ← shutdown with
  | .ok () => return .ok ()
  | .error (.known e) =>
    Act.log .warning logger s!"Deferred provider shutdown failed: {e.message}"
    return .ok ()
  | .error (.fault f) => return .error f

/-- Does what a close calls for, and answers whether the shutdown is not left to a release. -/
def Closing.carryOut (shutdown : Act σ (Except (Failure ProviderError) Unit)) :
    Closing → Act σ (Except (Failure ProviderError) Bool)
  | .already => return .ok true
  | .deferred count => do
    Act.log .warning logger
      s!"Provider still has {count} in-flight reference(s) at close; shutdown deferred"
    return .ok false
  | .now => do
    match ← shutdown with
    | .ok () => return .ok true
    | .error e => return .error e

/-- Where a world keeps the leases on a provider. -/
structure Place (σ : Type) where
  get : σ → Lease
  set : Lease → σ → σ

def Place.acquire (p : Place σ) : Act σ Unit :=
  .modify fun w => p.set (p.get w).acquire w

/-- Gives a lease back, and shuts the provider down when this is due. -/
def Place.release (p : Place σ) (shutdown : Act σ (Except (Failure ProviderError) Unit)) :
    Act σ (Except Fault Unit) := do
  Act.modify fun w => p.set (p.get w).release w
  if (← Act.read p.get).isDue then deferredShutdown shutdown else return .ok ()

/-- Closes a provider, and answers whether its shutdown is not left to a release. -/
def Place.close (p : Place σ) (shutdown : Act σ (Except (Failure ProviderError) Unit)) :
    Act σ (Except (Failure ProviderError) Bool) := do
  let closing := (← Act.read p.get).closing
  Act.modify fun w => p.set (p.get w).close w
  closing.carryOut shutdown

end Lease

/-- The leases on a provider together with its world. -/
structure SharedProvider (σ : Type) where
  lease : Lease := {}
  world : σ

namespace SharedProvider

variable {σ : Type}

def place : Lease.Place (SharedProvider σ) where
  get := lease
  set l s := { s with lease := l }

/-- Runs a step in the provider's world. -/
def within {α : Type} (a : Act σ α) : Act (SharedProvider σ) α :=
  a.zoom world fun w s => { s with world := w }

def acquire : Act (SharedProvider σ) Unit :=
  place.acquire

def release (p : Provider σ) : Act (SharedProvider σ) (Except Fault Unit) :=
  place.release (within p.shutdown)

/-- Closes the provider, and answers whether its shutdown is not left to a release. -/
def close (p : Provider σ) : Act (SharedProvider σ) (Except (Failure ProviderError) Bool) :=
  place.close (within p.shutdown)

/-- Runs a block that holds a lease. The lease is given back however the block ends; a fault in this
takes the place of what the block came to. -/
def hold {α : Type} (p : Provider σ)
    (block : Act (SharedProvider σ) (Except (Failure ProviderError) α)) :
    Act (SharedProvider σ) (Except (Failure ProviderError) α) := do
  acquire
  let result ← block
  match ← release p with
  | .ok () => return result
  | .error f => return .error (.fault f)

end SharedProvider

end ChatHost
