/-!
Finite maps that remember the order in which their keys came. Writing to a key that is present keeps
its place.
-/

namespace ChatHost

abbrev OrderedMap (κ α : Type) := List (κ × α)

namespace OrderedMap

variable {κ α : Type} [BEq κ]

def get? (m : OrderedMap κ α) (k : κ) : Option α :=
  m.lookup k

def has (m : OrderedMap κ α) (k : κ) : Bool :=
  (m.lookup k).isSome

def keys (m : OrderedMap κ α) : List κ :=
  m.map Prod.fst

def values (m : OrderedMap κ α) : List α :=
  m.map Prod.snd

/-- Binds a key: in its place when it is present, at the end otherwise. -/
def put (k : κ) (v : α) : OrderedMap κ α → OrderedMap κ α
  | [] => [(k, v)]
  | (j, w) :: rest => if j == k then (j, v) :: rest else (j, w) :: put k v rest

def erase (m : OrderedMap κ α) (k : κ) : OrderedMap κ α :=
  m.filter fun entry => !(entry.1 == k)

def adjust (k : κ) (f : α → α) (m : OrderedMap κ α) : OrderedMap κ α :=
  m.map fun entry => if entry.1 == k then (entry.1, f entry.2) else entry

/-- The map that a list of bindings makes: the first place and the last value of each key. -/
def ofList (entries : List (κ × α)) : OrderedMap κ α :=
  entries.foldl (fun m entry => put entry.1 entry.2 m) []

def update (m n : OrderedMap κ α) : OrderedMap κ α :=
  n.foldl (fun acc entry => put entry.1 entry.2 acc) m

end OrderedMap

end ChatHost
