import ChatHost.Proofs.Host.Configure
import ChatHost.Proofs.Options.RoundTrip
import ChatHost.Proofs.Tool.Noted

set_option autoImplicit false

/-!
New options start a session over. What it holds then is settled by the options, by the day and by
what the endpoints offer; whatever it held before, in this world or in another, makes no difference.
-/

namespace ChatHost

variable {σ τ : Type} {r : σ → τ → Prop}

/-- Whether two surroundings have the same clock, and the same behaviour of the endpoints of tools,
in worlds that are related. -/
structure Surroundings.Alike (r : σ → τ → Prop) (env : Surroundings σ) (env' : Surroundings τ) :
    Prop where
  today : Act.Agree r Eq env.today env'.today
  offers : env.transport.Offers r env'.transport

namespace Host

variable {env : Surroundings σ} {env' : Surroundings τ} {h : Host σ} {k : Handle} {s : Session}
  {input : OptionsInput} {options : Options} {tools : Option Tools} {prompt : Text.Letters}

def addingWorld : Scripted.HostWorld where
  tools := { endpoints := [("http://tools.test/sse", .offers [.obj [("name", .str "add")]])] }

/-- A session with options, tools and an answer, in a world in which an endpoint has been asked. -/
def answered : Host Scripted.HostWorld where
  registry :=
    { next := 4
      cells := [(3, {
        modelName := "small", provider := 2,
        options := { temperature := some (.real Options.half) }, tools := some [],
        messages := [⟨.system, "Old."⟩, ⟨.user, "Hi."⟩, ⟨.assistant, "Hi!"⟩] })] }
  world := { addingWorld with tools := addingWorld.tools.note (.connect "http://tools.test/sse") }

def equipped : Options :=
  ⟨some "Be brief.", some ["http://tools.test/sse"], some (.real Options.half), none⟩

/-- The first session when it has taken the options and gone on. -/
def continued : Host Scripted.HostWorld where
  registry :=
    { next := 2
      cells := [(1, {
        modelName := "tiny", provider := 0, options := equipped,
        messages := [⟨.system, "Be brief."⟩, ⟨.user, "Go on."⟩] })] }
  world := answered.world

end Host

end ChatHost
