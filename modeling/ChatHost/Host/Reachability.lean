import ChatHost.Host.Operation

/-!
Marking tools as reachable or not. A mark holds for the session and for the rounds in flight that
began under the same tools.
-/

namespace ChatHost

def Tools.mark (tools : Tools) (name : String) (reachable : Bool) : Tools :=
  OrderedMap.adjust name (fun t => { t with reachable := reachable }) tools

def Session.mark (s : Session) (name : String) (reachable : Bool) : Session :=
  { s with tools := s.tools.map fun t => t.mark name reachable }

def Host.mark {σ : Type} (h : Host σ) (handle : Handle) (name : String) (reachable : Bool) :
    Host σ :=
  { h with registry := (h.registry.change handle fun s => ((), s.mark name reachable)).2 }

/-- Marks a tool of a round that began after the given number of resets. -/
def Round.mark (r : Round) (handle : Handle) (resets : Nat) (name : String) (reachable : Bool) :
    Round :=
  if r.handle = handle ∧ r.snapshot.resets = resets then
    { r with snapshot :=
      { r.snapshot with tools := r.snapshot.tools.map fun t => t.mark name reachable } }
  else r

def Operation.Pending.mark (p : Operation.Pending) (handle : Handle) (resets : Nat) (name : String)
    (reachable : Bool) : Operation.Pending :=
  match p with
  | .hearing r => .hearing (r.mark handle resets name reachable)
  | .scanning r reply => .scanning (r.mark handle resets name reachable) reply
  | p => p

end ChatHost
