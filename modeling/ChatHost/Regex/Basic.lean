import ChatHost.Text.Blank
import ChatHost.Text.Case
import ChatHost.Text.Digit
import ChatHost.Text.Word

/-!
Regular expressions and the places that they match up to. `Regex.ends` lists the states that a match
can end in, the preferred one first; searching asks whether there is any from any place.
-/

namespace ChatHost

namespace Regex

inductive ClassItem where
  | range (low high : Char)
  | digit (negated : Bool)
  | space (negated : Bool)
  | word (negated : Bool)
  deriving DecidableEq, Repr

inductive Anchor where
  | lineStart
  | textStart
  | lineEnd
  | lastLineEnd
  | textEnd
  | wordBoundary
  | noWordBoundary
  deriving DecidableEq, Repr

/-- Which number of repetitions is tried first, and whether others are tried at all. -/
inductive Mode where
  | greedy
  | reluctant
  | possessive
  deriving DecidableEq, Repr

/-- How characters are compared: whether case is ignored, and whether the classes of digits, blanks
and word characters are those of ASCII. -/
structure Compare where
  ignoreCase : Bool := false
  ascii : Bool := false
  deriving DecidableEq, Repr

end Regex

inductive Regex where
  | empty
  | set (negated : Bool) (items : List Regex.ClassItem) (how : Regex.Compare)
  | any (newlineToo : Bool)
  | anchor (a : Regex.Anchor)
  | seq (a b : Regex)
  | alt (a b : Regex)
  | repeated (r : Regex) (low : Nat) (high : Option Nat) (mode : Regex.Mode)
  | group (index : Nat) (r : Regex)
  | backref (index : Nat) (how : Regex.Compare)
  | ahead (negated : Bool) (r : Regex)
  | behind (negated : Bool) (width : Nat) (r : Regex)
  | atomic (r : Regex)

namespace Regex

/-- A place in a text, and what the groups have captured: the text before it, last character first,
and the text after it. -/
structure State where
  before : List Char
  after : List Char
  captures : List (Nat × List Char)

def State.start (s : List Char) : State :=
  ⟨[], s, []⟩

/-- Whether a class of digits, blanks or word characters holds a character. -/
def Compare.holds (how : Compare) (p : Char → Bool) (c : Char) : Bool :=
  p c && (!how.ascii || c.toNat < 0x80)

def ClassItem.holds (how : Compare) (c : Char) : ClassItem → Bool
  | .range low high => low ≤ c && c ≤ high
  | .digit negated => how.holds Text.isDecimalDigit c != negated
  | .space negated => how.holds Text.isBlank c != negated
  | .word negated => how.holds Text.isWord c != negated

def Compare.forms (how : Compare) (c : Char) : List Char :=
  if how.ignoreCase then [c, c.toUpper] ++ Text.lowerChar c else [c]

def classHolds (negated : Bool) (items : List ClassItem) (how : Compare) (c : Char) : Bool :=
  ((how.forms c).any fun d => items.any fun i => i.holds how d) != negated

def State.step (p : Char → Bool) (s : State) : List State :=
  match s.after with
  | c :: rest => if p c then [⟨c :: s.before, rest, s.captures⟩] else []
  | [] => []

/-- Whether a place is between a word character and what is none. -/
def State.atBoundary (s : State) : Bool :=
  let isWordAt (cs : List Char) := (cs.head?.map Text.isWord).getD false
  isWordAt s.before != isWordAt s.after

def State.satisfies (s : State) : Anchor → Bool
  | .lineStart => s.before.isEmpty || s.before.head? = some '\n'
  | .textStart => s.before.isEmpty
  | .lineEnd => s.after.isEmpty || s.after.head? = some '\n'
  | .lastLineEnd => s.after.isEmpty || s.after = ['\n']
  | .textEnd => s.after.isEmpty
  | .wordBoundary => s.atBoundary
  | .noWordBoundary => !s.atBoundary && !(s.before.isEmpty && s.after.isEmpty)

def State.stepText (how : Compare) : List Char → State → List State
  | [], s => [s]
  | d :: ds, s =>
    match s.step fun c => (how.forms c).any fun e => (how.forms d).contains e with
    | t :: _ => stepText how ds t
    | [] => []

def exactly (step : State → List State) : Nat → State → List State
  | 0, s => [s]
  | n + 1, s => (step s).flatMap (exactly step n)

/-- Up to `high` further repetitions, each of which has to get on; `fuel` bounds them too. -/
def upTo (step : State → List State) (reluctant : Bool) : Nat → Option Nat → State → List State
  | 0, _, s => [s]
  | fuel + 1, high, s =>
    if high = some 0 then [s]
    else
      let more := ((step s).filter fun t => t.after.length < s.after.length).flatMap
        (upTo step reluctant fuel (high.map (· - 1)))
      if reluctant then s :: more else more ++ [s]

/-- The states in which a match from a state can end, the preferred one first. -/
def ends : Regex → State → List State
  | .empty, s => [s]
  | .set negated items how, s => s.step (classHolds negated items how)
  | .any newlineToo, s => s.step fun c => newlineToo || c != '\n'
  | .anchor a, s => if s.satisfies a then [s] else []
  | .seq a b, s => (ends a s).flatMap (ends b)
  | .alt a b, s => ends a s ++ ends b s
  | .repeated r low high mode, s =>
    let all := (exactly (ends r) low s).flatMap fun t =>
      upTo (ends r) (mode == .reluctant) t.after.length (high.map (· - low)) t
    if mode == .possessive then all.take 1 else all
  | .group index r, s =>
    (ends r s).map fun t =>
      let text := t.before.take (t.before.length - s.before.length)
      ⟨t.before, t.after, (index, text.reverse) :: t.captures⟩
  | .backref index how, s =>
    match s.captures.lookup index with
    | some text => s.stepText how text
    | none => []
  | .ahead negated r, s =>
    match ends r s, negated with
    | t :: _, false => [⟨s.before, s.after, t.captures⟩]
    | [], true => [s]
    | _, _ => []
  | .behind negated width r, s =>
    let text := (s.before.take width).reverse
    let found := if text.length < width then [] else
      (ends r ⟨s.before.drop width, text ++ s.after, s.captures⟩).filter fun t =>
        t.after.length = s.after.length
    match found, negated with
    | t :: _, false => [⟨s.before, s.after, t.captures⟩]
    | [], true => [s]
    | _, _ => []
  | .atomic r, s => (ends r s).take 1

def searchFrom (r : Regex) (before : List Char) : List Char → Bool
  | [] => !(ends r ⟨before, [], []⟩).isEmpty
  | c :: rest => !(ends r ⟨before, c :: rest, []⟩).isEmpty || searchFrom r (c :: before) rest

def search (r : Regex) (s : List Char) : Bool :=
  searchFrom r [] s

/-- The least and the greatest number of characters that a match takes; no greatest one where there
is no bound. -/
def width : Regex → Nat × Option Nat
  | .empty => (0, some 0)
  | .set .. => (1, some 1)
  | .any _ => (1, some 1)
  | .anchor _ => (0, some 0)
  | .seq a b =>
    ((width a).1 + (width b).1, do return (← (width a).2) + (← (width b).2))
  | .alt a b =>
    (min (width a).1 (width b).1, do return max (← (width a).2) (← (width b).2))
  | .repeated r low high _ =>
    ((width r).1 * low, do return (← (width r).2) * (← high))
  | .group _ r => width r
  | .backref .. => (0, none)
  | .ahead .. => (0, some 0)
  | .behind .. => (0, some 0)
  | .atomic r => width r

end Regex

end ChatHost
