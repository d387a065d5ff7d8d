import ChatHost.Fault
import ChatHost.Log
import ChatHost.OrderedMap

/-!
Registries: values under handles. A handle is given out at most once, also when its value is
removed; when all of them have been given out, none is given out any more.
-/

namespace ChatHost

/-- What a caller names a value by. The handles that are given out are positive. -/
abbrev Handle := Int

/-- Values by their handles, and the number that is counted next. -/
structure Registry (α : Type) where
  next : Nat := 1
  cells : OrderedMap Handle α := []

namespace Registry

variable {α β : Type}

def lastHandle : Nat :=
  0xFFFFFFFF

/-- Counts on, and gives out the number that was next while it is a handle. -/
def take (r : Registry α) : Except Fault Handle × Registry α :=
  (if r.next ≤ lastHandle then .ok r.next else .error .handlesExhausted,
    { r with next := r.next + 1 })

def store (r : Registry α) (h : Handle) (a : α) : Registry α :=
  { r with cells := OrderedMap.put h a r.cells }

def insert (r : Registry α) (a : α) : Except Fault Handle × Registry α :=
  match r.take with
  | (.ok h, r) => (.ok h, r.store h a)
  | (.error f, r) => (.error f, r)

def get? (r : Registry α) (h : Handle) : Option α :=
  OrderedMap.get? r.cells h

def contains (r : Registry α) (h : Handle) : Bool :=
  OrderedMap.has r.cells h

def remove (r : Registry α) (h : Handle) : Option α × Registry α :=
  (r.get? h, { r with cells := OrderedMap.erase r.cells h })

def look (r : Registry α) (h : Handle) (f : α → β) : Option β :=
  (r.get? h).map f

/-- Changes the value under a handle, if there is one, and gives what the change answers. -/
def change (r : Registry α) (h : Handle) (f : α → β × α) : Option β × Registry α :=
  match r.get? h with
  | none => (none, r)
  | some a => (some (f a).1, r.store h (f a).2)

/-- The handles under which there are values, in ascending order. -/
def handles (r : Registry α) : List Handle :=
  (OrderedMap.keys r.cells).mergeSort (· ≤ ·)

def size (r : Registry α) : Nat :=
  r.cells.length

def logger : String :=
  "handles"

def insertedRecord (h : Handle) : LogRecord :=
  ⟨.debug, logger, s!"Registered handle {h}"⟩

def removedRecord (h : Handle) : LogRecord :=
  ⟨.debug, logger, s!"Removed handle {h}"⟩

def insertRecords : Except Fault Handle → List LogRecord
  | .ok h => [insertedRecord h]
  | .error _ => []

def removeRecords (h : Handle) : Option α → List LogRecord
  | some _ => [removedRecord h]
  | none => []

end Registry

end ChatHost
