import ChatHost.Host.Operation
import ChatHost.Proofs.Act

set_option autoImplicit false

/-!
Worlds in which a note is taken of what the host asks of the outside: the steps of providers and the
sessions with tools. A note is taken before the step that it is of, and the step itself runs in the
world behind the notes.
-/

namespace ChatHost

/-- An outside world and the notes that have been taken, in their order. -/
structure Noted (ε σ : Type) where
  world : σ
  notes : List ε := []

namespace Noted

variable {ε σ α : Type}

def silent (a : Act σ α) : Act (Noted ε σ) α :=
  a.zoom world fun w n => { n with world := w }

def note (e : ε) : Act (Noted ε σ) Unit :=
  .modify fun n => { n with notes := n.notes ++ [e] }

/-- Takes a note, and runs a step in the world behind the notes. -/
def noting (e : ε) (a : Act σ α) : Act (Noted ε σ) α := do
  note e
  silent a

theorem noting_ends (e : ε) (a : Act σ α) (n : Noted ε σ) :
    (noting e a).Ends n fun r v =>
      r = (a.run n.world).result ∧ v = ⟨(a.run n.world).world, n.notes ++ [e]⟩ :=
  ⟨rfl, rfl⟩

end Noted

inductive Provider.Event where
  | start (config : ServerConfig)
  | ask (request : Request)
  | shutdown

inductive Tool.Event where
  | connect (endpoint : Text.Letters)
  | list (endpoint : Text.Letters)
  | call (endpoint : Text.Letters) (name : String) (arguments : Option (List (String × Json)))
  | close (endpoint : Text.Letters)

variable {ε σ : Type}

def Provider.noted (f : Provider.Event → ε) (p : Provider σ) : Provider (Noted ε σ) where
  start config := Noted.noting (f (.start config)) (p.start config)
  ask r := Noted.noting (f (.ask r)) (p.ask r)
  answer r := Noted.silent (p.answer r)
  shutdown := Noted.noting (f .shutdown) p.shutdown

def Tool.Transport.noted (f : Tool.Event → ε) (t : Transport σ) : Transport (Noted ε σ) where
  connect endpoint := Noted.noting (f (.connect endpoint)) (t.connect endpoint)
  list endpoint := Noted.noting (f (.list endpoint)) (t.list endpoint)
  call endpoint name arguments :=
    Noted.noting (f (.call endpoint name arguments)) (t.call endpoint name arguments)
  close endpoint := Noted.noting (f (.close endpoint)) (t.close endpoint)

inductive Host.Event where
  | made (provider : Nat) (model : Model)
  | provider (number : Nat) (event : Provider.Event)
  | tool (event : Tool.Event)
  | checked (url : Url.Parts)

def Surroundings.noted (env : Surroundings σ) : Surroundings (Noted Host.Event σ) where
  policy := env.policy
  config := env.config
  today := Noted.silent env.today
  validator := env.validator
  transport := env.transport.noted .tool
  make number m := Noted.noting (.made number m) (env.make number m)
  provider number := (env.provider number).noted (.provider number)

def Operation.noted : Operation σ → Operation (Noted Host.Event σ)
  | .setModel model check =>
    .setModel model (check.map fun check parts => Noted.noting (.checked parts) (check parts))
  | .getModel handle => .getModel handle
  | .setOptions handle options => .setOptions handle options
  | .getOptions handle => .getOptions handle
  | .prompt handle text => .prompt handle text
  | .readResponse handle => .readResponse handle
  | .close handle => .close handle
  | .closeAll => .closeAll

end ChatHost
