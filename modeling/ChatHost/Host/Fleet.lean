import ChatHost.Host.Basic
import ChatHost.Provider.Llamafile
import ChatHost.Settings.Derived

/-!
The providers of a host that run llamafiles: each has its number, and all of them share a machine.
-/

namespace ChatHost

/-- Providers that run llamafiles, by their numbers. -/
structure Fleet where
  servers : OrderedMap Nat (Llamafile × Llamafile.Status) := []

namespace Fleet

def get? (f : Fleet) (number : Nat) : Option (Llamafile × Llamafile.Status) :=
  OrderedMap.get? f.servers number

def put (number : Nat) (l : Llamafile) (status : Llamafile.Status) (f : Fleet) : Fleet :=
  ⟨OrderedMap.put number (l, status) f.servers⟩

/-- Where a world keeps its providers. -/
structure Place (σ : Type) where
  get : σ → Fleet
  set : Fleet → σ → σ

namespace Place

variable {σ α : Type}

/-- The failure of a step of a provider that has not been made. -/
def unknown : Failure ProviderError :=
  .fault (.outside .runtime "nothing runs under this number")

/-- Runs a step of a provider, and keeps what it remembers afterwards. -/
def step (place : Place σ) (number : Nat)
    (a : Llamafile → Act (Llamafile.Running σ) (Except (Failure ProviderError) α)) :
    Act σ (Except (Failure ProviderError) α) := fun w =>
  match (place.get w).get? number with
  | none => ⟨.error unknown, w, []⟩
  | some (l, status) =>
    let out := (a l).run ⟨status, w⟩
    let world := out.world.world
    ⟨out.result, place.set ((place.get world).put number l out.world.status) world, out.records⟩

def provider (place : Place σ) (m : Machine σ) (number : Nat) : Provider σ where
  start config := place.step number fun l => (l.provider m).start config
  ask _ := pure ()
  answer request := place.step number fun l => (l.provider m).answer request
  shutdown := place.step number fun l => (l.provider m).shutdown

/-- Makes the provider with a number for a model, as settings ask for it. -/
def make (place : Place σ) (s : Settings) (number : Nat) (model : Model) :
    Act σ (Except Fault Unit) :=
  .ofWorld fun w =>
    match s.llamafile model with
    | .error f => (.error f, w)
    | .ok l => (.ok (), place.set ((place.get w).put number l {}) w)

/-- What a host finds in a world with a machine, under some settings. -/
def surroundings (place : Place σ) (m : Machine σ) (validator : Schema.Validator)
    (transport : Tool.Transport σ) (today : Act σ Date) (s : Settings) : Surroundings σ where
  policy := s.policy
  config := s.serverConfig
  today := today
  validator := validator
  transport := transport
  make := place.make s
  provider := place.provider m

end Place

end Fleet

end ChatHost
