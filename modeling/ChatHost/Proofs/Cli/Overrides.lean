import ChatHost.Cli.Desk
import ChatHost.Proofs.Settings.Overrides

set_option autoImplicit false

/-!
The overrides of a command line. They are read before anything else is done: where one is refused,
the command line is a misuse, and all that is done is to tell it.
-/

namespace ChatHost.Cli.System

open Settings

variable {σ : Type} (sys : System σ)

/-! ### Exit codes -/

end ChatHost.Cli.System
