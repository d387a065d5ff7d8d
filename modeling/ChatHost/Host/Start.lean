import ChatHost.Host.Basic

/-!
Starting a session, in two steps: a model is chosen and a provider is made for it; then the provider
is started and the session is put under a handle.
-/

namespace ChatHost

abbrev UrlCheck (σ : Type) := Url.Parts → Act σ (Except Fault Bool)

namespace Host

variable {σ : Type}

/-- A provider that has been made for a model under the name that the caller gave. -/
structure Starting where
  name : String
  provider : Nat
  deriving DecidableEq, Repr

def chooseModel (env : Surroundings σ) (name : String) :
    Act (Host σ) (Except (Failure HostError) Model) := do
  let choice := Model.choose env.policy name
  Act.write choice.records
  match choice with
  | .model m => return .ok m
  | .unsupported candidate _ =>
    Act.log .error logger s!"Model not supported: {name}"
    return .error (.known ⟨.modelNotSupported, Model.unsupportedMessage candidate, none⟩)

/-- Whether a model may be used: one of the catalog may, one at a URL when the caller's check allows
it. Without a check it may not. -/
def allowed (check : Option (UrlCheck σ)) : Model → Act (Host σ) (Except Fault Bool)
  | .catalog .. => return .ok true
  | .url address _ =>
    match check, Url.split address.toList with
    | none, _ => return .ok false
    | some _, .error e => return .error (.invalid e.message)
    | some check, .ok parts => within (check parts)

/-- Refuses a model that may not be used. -/
def authorize (check : Option (UrlCheck σ)) (m : Model) :
    Act (Host σ) (Except (Failure HostError) Unit) := do
  match ← allowed check m with
  | .error f => return .error (.fault f)
  | .ok true => return .ok ()
  | .ok false =>
    Act.log .error logger s!"Permission denied for model URL: {m.downloadUrl}"
    return .error (.known
      ⟨.permissionDenied, s!"Permission denied for model URL {m.downloadUrl}", none⟩)

def makeProvider (env : Surroundings σ) (m : Model) :
    Act (Host σ) (Except (Failure HostError) Nat) := do
  let number ← Act.read Host.made
  match ← within (env.make number m) with
  | .error f => return .error (.fault f)
  | .ok () =>
    Act.modify fun h => { h with made := number + 1 }
    return .ok number

def beginStart (env : Surroundings σ) (model : Input) (check : Option (UrlCheck σ)) :
    Act (Host σ) (Except (Failure HostError) Starting) :=
  match model.decode "model name" with
  | .error e => return .error (.known e)
  | .ok name =>
    (chooseModel env name).andThen fun m =>
    (authorize check m).andThen fun () =>
    (makeProvider env m).andThen fun provider =>
    pure (.ok ⟨name, provider⟩)

def register (s : Session) : Act (Host σ) (Except (Failure HostError) Handle) := do
  let inserted ← Act.ofWorld fun h =>
    ((h.registry.insert s).1, { h with registry := (h.registry.insert s).2 })
  Act.write (Registry.insertRecords inserted)
  match inserted with
  | .ok handle => return .ok handle
  | .error f => return .error (.fault f)

def endStart (env : Surroundings σ) (s : Starting) :
    Act (Host σ) (Except (Failure HostError) Handle) := do
  match ← within (Session.bringUp (env.provider s.provider) env.config) with
  | .error (.fault f) => return .error (.fault f)
  | .error (.known e) =>
    Act.log .error logger s!"Model initialization failed for {s.name}: {e.message}"
    return .error (.known (.of .modelInitializationFailed e.message (some (.provider e))))
  | .ok () =>
    (register { modelName := s.name, provider := s.provider }).andThen fun handle => do
      Act.log .info logger s!"Model set: {s.name} (handle {handle})"
      return .ok handle

def setModel (env : Surroundings σ) (model : Input) (check : Option (UrlCheck σ)) :
    Act (Host σ) (Except (Failure HostError) Handle) :=
  (beginStart env model check).andThen (endStart env)

end Host

end ChatHost
