import ChatHost.Proofs.Host.Telling
import ChatHost.Proofs.Options
import ChatHost.Proofs.Tool.Prompt
import ChatHost.Scripted.Host

set_option autoImplicit false

/-!
Giving a session the options of a payload. Either the conversation starts over under the options
that the payload describes, or it ends as reading the payload does, and no session changes.
-/

namespace ChatHost
namespace Host

variable {σ : Type} {env : Surroundings σ} {k : Handle} {h : Host σ}

/-- The tools that options bring: those of their endpoints, if they have any. -/
def search (env : Surroundings σ) (options : Options) : Act σ (Option Tools) :=
  if options.hasToolEndpoints then do
    let tools ← Tool.discover env.transport (options.toolEndpoints.getD [])
    return some tools
  else pure none

end Host

namespace Operation

variable {σ : Type}

end Operation

namespace Host

variable {σ : Type}

end Host

end ChatHost
