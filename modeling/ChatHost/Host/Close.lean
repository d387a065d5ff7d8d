import ChatHost.Host.Basic

/-!
Closing sessions, in two steps: the session is taken from under its handle; then its provider is
closed.
-/

namespace ChatHost.Host

variable {σ : Type}

/-- Takes a session from under its handle and gives the number of its provider. -/
def beginClose (handle : Handle) : Act (Host σ) (Option Nat) := do
  let removed ← Act.ofWorld fun h =>
    ((h.registry.remove handle).1, { h with registry := (h.registry.remove handle).2 })
  Act.write (Registry.removeRecords handle removed)
  match removed with
  | some s => return some s.provider
  | none =>
    Act.log .debug logger s!"Close on unknown handle {handle} ignored"
    return none

/-- The words for a provider that is closed, by whether its shutdown is not left to a release. -/
def closedWords (stopped : Bool) : String :=
  if stopped then "provider stopped" else "provider shutdown deferred"

def endClose (env : Surroundings σ) (handle : Handle) (provider : Nat) :
    Act (Host σ) (Except (Failure HostError) Unit) := do
  match ← (leasePlace provider).close (shutdown env provider) with
  | .ok stopped =>
    Act.log .info logger s!"Closed handle {handle} ({closedWords stopped})"
    return .ok ()
  | .error (.fault f) => return .error (.fault f)
  | .error (.known e) =>
    Act.log .error logger s!"Model shutdown failed for handle {handle}: {e.message}"
    return .error (.known (.of .modelShutdownFailed e.message (some (.provider e))))

/-- Closes a session; without one there is nothing to do. -/
def close (env : Surroundings σ) (handle : Handle) :
    Act (Host σ) (Except (Failure HostError) Unit) := do
  match ← beginClose handle with
  | none => return .ok ()
  | some provider => endClose env handle provider

/-- Records that a session among several did not close cleanly. A fault ends the closing. -/
def tolerate (handle : Handle) (result : Except (Failure HostError) Unit) :
    Act (Host σ) (Except Fault Unit) := do
  match result with
  | .ok () => return .ok ()
  | .error (.fault f) => return .error f
  | .error (.known e) =>
    Act.log .warning logger s!"Handle {handle} did not shut down cleanly: {e.line}"
    return .ok ()

def closeEach (env : Surroundings σ) : List Handle → Act (Host σ) (Except Fault Unit)
  | [] => return .ok ()
  | handle :: rest => do
    match ← tolerate handle (← close env handle) with
    | .error f => return .error f
    | .ok () => closeEach env rest

def closeAll (env : Surroundings σ) : Act (Host σ) (Except Fault Unit) := do
  closeEach env (← Act.read fun h => h.registry.handles)

end ChatHost.Host
