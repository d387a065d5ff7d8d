import ChatHost.Path
import ChatHost.Provider.Completion

/-!
What a provider with a server of its own needs from the machine on which it runs.
-/

namespace ChatHost

structure Process where
  /-- Tells the process from all others. -/
  number : Nat
  /-- The number by which the operating system calls the process. -/
  pid : Nat
  deriving DecidableEq, Repr

structure Machine (σ : Type) where
  /-- Whether there is a file at a path. -/
  present : Path → Act σ (Except OsError Bool)
  /-- Brings what is at a URL to a path. -/
  fetch : String → Path → Act σ (Except (Failure ProviderError) Unit)
  /-- Starts a process with a command. -/
  spawn : List String → Act σ (Except OsError Process)
  /-- Asks a process to end. -/
  terminate : Process → Act σ (Except OsError Unit)
  /-- Waits for a process to end, no longer than a time if one is given, and tells whether it has
  ended. -/
  wait : Process → Option Number → Act σ (Except OsError Bool)
  /-- Makes a process end. -/
  kill : Process → Act σ (Except OsError Unit)
  /-- Lets time pass. -/
  sleep : Number → Act σ Unit
  /-- Tries once to get a completion from a server. -/
  complete : ServerConfig → Json Text.Letters → Act σ (Except Completion.Trouble Json)

def Machine.zoom {σ τ : Type} (get : τ → σ) (set : σ → τ → τ) (m : Machine σ) : Machine τ where
  present p := (m.present p).zoom get set
  fetch url p := (m.fetch url p).zoom get set
  spawn command := (m.spawn command).zoom get set
  terminate p := (m.terminate p).zoom get set
  wait p time := (m.wait p time).zoom get set
  kill p := (m.kill p).zoom get set
  sleep time := (m.sleep time).zoom get set
  complete config value := (m.complete config value).zoom get set

end ChatHost
