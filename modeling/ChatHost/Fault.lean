import ChatHost.Error
import ChatHost.Text.Quoted

/-!
Faults: failures that no layer of the host turns into an error of its own, and that pass through it
to the caller. They come from the outside world, or from values that cannot be used.
-/

namespace ChatHost

/-- A failure that the operating system reports. -/
structure OsError where
  number : Nat
  text : String
  path : Option String := none
  target : Option String := none
  deriving DecidableEq, Repr

/-- The wording of an operating system's failure. -/
def OsError.message (e : OsError) : String :=
  let head := s!"[Errno {e.number}] {e.text}"
  match e.path, e.target with
  | some p, some t => s!"{head}: {Text.quoted p} -> {Text.quoted t}"
  | some p, none => s!"{head}: {Text.quoted p}"
  | none, _ => head

/-- The kinds of failure that the outside world reports besides its own error types. -/
inductive OutsideKind where
  | runtime
  | value
  | connection
  | attribute
  | address
  deriving DecidableEq, Repr

/-- The ways in which a reference in a schema leads nowhere. Where it helps, the document is given
as it is shown. -/
inductive ReferenceFault where
  /-- There is nothing where a pointer leads. -/
  | pointer (place whole : String)
  /-- There is no anchor of a name. -/
  | anchor (name whole : String)
  /-- A text is neither a pointer nor the name of an anchor. -/
  | malformed (name : String)
  /-- A document is not known. -/
  | document (reference : String)
  deriving DecidableEq, Repr

def ReferenceFault.message : ReferenceFault → String
  | .pointer place whole =>
    let hint := if place = "/" then
        ". The pointer '/' is a valid JSON Pointer but it points to an empty string property " ++
          "''. If you intended to point to the entire resource, you should use '#'."
      else ""
    s!"PointerToNowhere: {Text.quoted place} does not exist within {whole}{hint}"
  | .anchor name whole =>
    s!"NoSuchAnchor: {Text.quoted name} does not exist within {whole}"
  | .malformed name =>
    s!"InvalidAnchor: '#{name}' is not a valid anchor, neither as a plain name anchor nor as a " ++
      s!"JSON Pointer. You may have intended to use '#/{name}', as the slash is required " ++
      "*before each segment* of a JSON pointer."
  | .document reference => s!"Unresolvable: {reference}"

inductive Fault where
  /-- A whole number with too many digits. -/
  | tooManyDigits (count : Nat)
  /-- A whole number beyond the range of doubles. -/
  | beyondReals
  /-- An infinity that is to be divided exactly. -/
  | beyondRatios
  /-- Bytes that are no text. -/
  | undecodable (f : Text.DecodeFault)
  /-- A value of a kind that cannot be used. -/
  | mistyped (message : String)
  /-- A key that an object does not have. -/
  | noSuchKey (shown : String)
  /-- A text that is not of the expected form. -/
  | invalid (message : String)
  /-- A failure of the operating system. -/
  | os (e : OsError)
  /-- A home directory that is not known. -/
  | noHome
  /-- No handle is left. -/
  | handlesExhausted
  /-- A reference in a tool's schema that leads nowhere. -/
  | reference (f : ReferenceFault)
  /-- References in a tool's schema that lead on without end. -/
  | endlessReference
  /-- A failure of the outside world. -/
  | outside (kind : OutsideKind) (message : String)
  deriving DecidableEq, Repr

def Fault.message : Fault → String
  | .tooManyDigits count => Decimal.tooManyDigits count
  | .beyondReals => "int too large to convert to float"
  | .beyondRatios => "cannot convert Infinity to integer ratio"
  | .undecodable f => f.message
  | .mistyped m => m
  | .noSuchKey k => k
  | .invalid m => m
  | .os e => e.message
  | .noHome => "Could not determine home directory."
  | .handlesExhausted => "Handle space exhausted"
  | .reference f => f.message
  | .endlessReference => "maximum recursion depth exceeded"
  | .outside _ m => m

/-- How a step fails: with an error of its layer, or with a fault that passes through. -/
inductive Failure (ε : Type) where
  | known (e : ε)
  | fault (f : Fault)
  deriving DecidableEq, Repr

end ChatHost
