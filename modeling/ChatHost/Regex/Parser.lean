import ChatHost.Decimal.Digits
import ChatHost.Regex.Basic
import ChatHost.Text.Cut

/-!
The written form of regular expressions: alternatives, repetitions in three modes, classes, groups
with and without names, references to them, conditions on what is ahead and behind, and flags.
-/

namespace ChatHost.Regex

/-- The flags in force while an expression is read. -/
structure Flags where
  ignoreCase : Bool := false
  multiLine : Bool := false
  dotAll : Bool := false
  verbose : Bool := false
  ascii : Bool := false

def Flags.compare (f : Flags) : Compare :=
  ⟨f.ignoreCase, f.ascii⟩

/-- What has been read of the groups: how many there are, which have names, and which are open. -/
structure Groups where
  count : Nat := 0
  names : List (List Char × Nat) := []
  «open» : List Nat := []

/-- A piece of a sequence: whether it is a condition on a place, or a repetition. -/
inductive Kind where
  | place
  | repetition
  | other
  deriving DecidableEq

abbrev Parsed (α : Type) := α × List Char × Groups

/-- The number that hexadecimal digits write, if there are as many as asked for. -/
def hexNumber? (count : Nat) (cs : List Char) : Option (Nat × List Char) :=
  let ds := cs.take count
  if ds.length = count then
    (ds.mapM Decimal.hexValue?).map fun vs => (vs.foldl (fun n d => 16 * n + d) 0, cs.drop count)
  else none

def isOctal (c : Char) : Bool :=
  '0' ≤ c && c ≤ '7'

def octal (cs : List Char) : Nat :=
  cs.foldl (fun n c => 8 * n + (c.toNat - 48)) 0

/-- A character of ASCII that may not be escaped without a meaning. -/
def needsMeaning (c : Char) : Bool :=
  c.isAlphanum

/-- The character of a code point, if there is one. -/
def charOf? (n : Nat) : Option Char :=
  if n.isValidChar then some (Char.ofNat n) else none

/-- The character that an escape stands for inside and outside of classes, the backslash having been
taken. -/
def charEscape? (cs : List Char) : Option (Char × List Char) :=
  match cs with
  | 'a' :: rest => some ('\x07', rest)
  | 'f' :: rest => some ('\x0c', rest)
  | 'n' :: rest => some ('\n', rest)
  | 'r' :: rest => some ('\r', rest)
  | 't' :: rest => some ('\t', rest)
  | 'v' :: rest => some ('\x0b', rest)
  | 'x' :: rest => do
    let (n, rest) ← hexNumber? 2 rest
    return (← charOf? n, rest)
  | 'u' :: rest => do
    let (n, rest) ← hexNumber? 4 rest
    return (← charOf? n, rest)
  | 'U' :: rest => do
    let (n, rest) ← hexNumber? 8 rest
    return (← charOf? n, rest)
  | c :: rest => if needsMeaning c then none else some (c, rest)
  | [] => none

def categoryEscape? (c : Char) : Option ClassItem :=
  if c = 'd' then some (.digit false)
  else if c = 'D' then some (.digit true)
  else if c = 's' then some (.space false)
  else if c = 'S' then some (.space true)
  else if c = 'w' then some (.word false)
  else if c = 'W' then some (.word true)
  else none

/-- One member of a class, before a possible range: a character or a class. -/
def classMember? (cs : List Char) : Option (ClassItem × List Char) :=
  match cs with
  | '\\' :: c :: rest =>
    match categoryEscape? c with
    | some item => some (item, rest)
    | none =>
      if c = 'b' then some (.range '\x08' '\x08', rest)
      else if isOctal c then
        let ds := (c :: rest).takeWhile isOctal |>.take 3
        if octal ds ≤ 255 then
          some (.range (Char.ofNat (octal ds)) (Char.ofNat (octal ds)), (c :: rest).drop ds.length)
        else none
      else (charEscape? (c :: rest)).map fun (d, rest) => (.range d d, rest)
  | c :: rest => if c = '\\' then none else some (.range c c, rest)
  | [] => none

def classItems : Nat → Bool → List Char → Option (List ClassItem × List Char)
  | 0, _, _ => none
  | fuel + 1, first, cs =>
    match cs with
    | ']' :: rest =>
      if first then do
        let (items, rest) ← classRange fuel (.range ']' ']') rest
        return (items, rest)
      else some ([], rest)
    | _ => do
      let (low, rest) ← classMember? cs
      classRange fuel low rest
where
  /-- The rest of a class behind a member that may start a range. -/
  classRange (fuel : Nat) (low : ClassItem) (cs : List Char) :
      Option (List ClassItem × List Char) :=
    match cs with
    | '-' :: ']' :: rest => some ([low, .range '-' '-'], rest)
    | '-' :: rest => do
      let (high, rest) ← classMember? rest
      match low, high with
      | .range a _, .range b _ =>
        if a ≤ b then
          let (items, rest) ← classItems fuel false rest
          return (.range a b :: items, rest)
        else none
      | _, _ => none
    | _ => do
      let (items, rest) ← classItems fuel false cs
      return (low :: items, rest)

/-- Reads the bounds of a repetition, the opening brace having been taken. -/
def bounds? (cs : List Char) : Option ((Nat × Option Nat) × List Char) :=
  let low := cs.takeWhile Text.isAsciiDigit
  let rest := cs.drop low.length
  let lowest := Decimal.ofAscii low
  match rest with
  | ',' :: rest =>
    let high := rest.takeWhile Text.isAsciiDigit
    match rest.drop high.length with
    | '\x7d' :: rest =>
      some ((lowest, if high.isEmpty then none else some (Decimal.ofAscii high)), rest)
    | _ => none
  | '\x7d' :: rest => if low.isEmpty then none else some ((lowest, some lowest), rest)
  | _ => none

def repetition? (cs : List Char) : Option ((Nat × Option Nat) × List Char) :=
  match cs with
  | '*' :: rest => some ((0, none), rest)
  | '+' :: rest => some ((1, none), rest)
  | '?' :: rest => some ((0, some 1), rest)
  | '\x7b' :: rest => bounds? rest
  | _ => none

def modeOf (cs : List Char) : Mode × List Char :=
  match cs with
  | '?' :: rest => (.reluctant, rest)
  | '+' :: rest => (.possessive, rest)
  | _ => (.greedy, cs)

/-- The text up to a closing character, and the text behind it. -/
def until? (c : Char) (cs : List Char) : Option (List Char × List Char) :=
  match Text.cutFirst c cs with
  | (name, some rest) => some (name, rest)
  | (_, none) => none

/-- The name of a group: a word that does not start with a digit. -/
def isGroupName (cs : List Char) : Bool :=
  match cs with
  | c :: rest => Text.isWord c && !Text.isDecimalDigit c && rest.all Text.isWord
  | [] => false

def Flags.set? (f : Flags) (on : Bool) (c : Char) : Option Flags :=
  if c = 'i' then some { f with ignoreCase := on }
  else if c = 'm' then some { f with multiLine := on }
  else if c = 's' then some { f with dotAll := on }
  else if c = 'x' then some { f with verbose := on }
  else if c = 'a' && on then some { f with ascii := on }
  else if c = 'u' && on then some { f with ascii := false }
  else none

def Flags.setAll? (f : Flags) (on : Bool) (cs : List Char) : Option Flags :=
  cs.foldlM (fun f c => f.set? on c) f

/-- The flags at the head of an expression or of a group: the letters that set, and those that
clear. -/
def flagLetters (cs : List Char) : (List Char × Option (List Char)) × List Char :=
  let on := cs.takeWhile Char.isAlpha
  match cs.drop on.length with
  | '-' :: rest => ((on, some (rest.takeWhile Char.isAlpha)), rest.dropWhile Char.isAlpha)
  | rest => ((on, none), rest)

def literal (f : Flags) (c : Char) : Regex :=
  .set false [.range c c] f.compare

/-- Reads an escape outside of classes, the backslash having been taken. -/
def escape? (f : Flags) (groups : Groups) (cs : List Char) : Option ((Regex × Kind) × List Char) :=
  match cs with
  | [] => none
  | c :: rest =>
    match categoryEscape? c with
    | some item => some ((.set false [item] f.compare, .other), rest)
    | none =>
      if c = 'A' then some ((.anchor .textStart, .place), rest)
      else if c = 'Z' then some ((.anchor .textEnd, .place), rest)
      else if c = 'b' then some ((.anchor .wordBoundary, .place), rest)
      else if c = 'B' then some ((.anchor .noWordBoundary, .place), rest)
      else if c = '0' then
        let ds := (rest.takeWhile isOctal).take 2
        some ((literal f (Char.ofNat (octal ds)), .other), rest.drop ds.length)
      else if Text.isAsciiDigit c then
        let ds := (cs.takeWhile Text.isAsciiDigit).take 2
        let octals := (cs.takeWhile isOctal).take 3
        if octals.length = 3 then
          if octal octals ≤ 255 then
            some ((literal f (Char.ofNat (octal octals)), .other), cs.drop 3)
          else none
        else
          let n := Decimal.ofAscii ds
          if n ≤ groups.count && !groups.open.contains n then
            some ((.backref n f.compare, .other), cs.drop ds.length)
          else none
      else (charEscape? cs).map fun (d, rest) => ((literal f d, .other), rest)

/-- A sequence of pieces, of which the last comes first. -/
def sequence (pieces : List (Regex × Kind)) : Regex :=
  pieces.foldl (fun r p => match r with
    | .empty => p.1
    | r => .seq p.1 r) .empty

def Groups.enter (g : Groups) (name : Option (List Char)) : Groups where
  count := g.count + 1
  names := match name with
    | none => g.names
    | some n => (n, g.count + 1) :: g.names
  «open» := (g.count + 1) :: g.open

def Groups.leave (g : Groups) (index : Nat) : Groups :=
  { g with «open» := g.open.filter (· ≠ index) }

mutual

def alternatives : Nat → Flags → Groups → List Char → Option (Parsed Regex)
  | 0, _, _, _ => none
  | fuel + 1, f, groups, cs => do
    let (first, rest, groups) ← pieces fuel f groups [] cs
    match rest with
    | '|' :: rest => do
      let (others, rest, groups) ← alternatives fuel f groups rest
      return (.alt first others, rest, groups)
    | _ => return (first, rest, groups)

/-- Reads a sequence behind the pieces that have been read, the last of them first. -/
def pieces : Nat → Flags → Groups → List (Regex × Kind) → List Char → Option (Parsed Regex)
  | 0, _, _, _, _ => none
  | fuel + 1, f, groups, done, cs =>
    match cs with
    | [] => some (sequence done, [], groups)
    | '|' :: _ => some (sequence done, cs, groups)
    | ')' :: _ => some (sequence done, cs, groups)
    | '\\' :: rest => do
      let (piece, rest) ← escape? f groups rest
      pieces fuel f groups (piece :: done) rest
    | '.' :: rest => pieces fuel f groups ((.any f.dotAll, .other) :: done) rest
    | '^' :: rest =>
      pieces fuel f groups
        ((.anchor (if f.multiLine then .lineStart else .textStart), .place) :: done) rest
    | '$' :: rest =>
      pieces fuel f groups
        ((.anchor (if f.multiLine then .lineEnd else .lastLineEnd), .place) :: done) rest
    | '[' :: '^' :: rest => do
      let (items, rest) ← classItems fuel true rest
      pieces fuel f groups ((.set true items f.compare, .other) :: done) rest
    | '[' :: rest => do
      let (items, rest) ← classItems fuel true rest
      pieces fuel f groups ((.set false items f.compare, .other) :: done) rest
    | '(' :: rest => do
      let (piece, rest, groups) ← grouped fuel f groups rest
      match piece with
      | none => pieces fuel f groups done rest
      | some r => pieces fuel f groups ((r, .other) :: done) rest
    | c :: rest =>
      if f.verbose && Text.isBlank c then pieces fuel f groups done rest
      else if f.verbose && c = '#' then
        pieces fuel f groups done (rest.dropWhile (· ≠ '\n'))
      else
        match repetition? cs with
        | none =>
          if c = '*' || c = '+' || c = '?' then none
          else pieces fuel f groups ((literal f c, .other) :: done) rest
        | some ((low, high), rest) =>
          match done with
          | (r, .other) :: done =>
            if low ≤ high.getD low then
              let (mode, rest) := modeOf rest
              pieces fuel f groups ((.repeated r low high mode, .repetition) :: done) rest
            else none
          | _ => none

/-- Reads a group whose opening parenthesis has been taken; nothing for a comment. -/
def grouped : Nat → Flags → Groups → List Char → Option (Parsed (Option Regex))
  | 0, _, _, _ => none
  | fuel + 1, f, groups, cs =>
    match cs with
    | '?' :: '#' :: rest => do
      let (_, rest) ← until? ')' rest
      return (none, rest, groups)
    | '?' :: ':' :: rest => plain fuel f groups rest
    | '?' :: '>' :: rest => do
      let (r, rest, groups) ← plain fuel f groups rest
      return (r.map .atomic, rest, groups)
    | '?' :: '=' :: rest => do
      let (r, rest, groups) ← plain fuel f groups rest
      return (r.map (.ahead false), rest, groups)
    | '?' :: '!' :: rest => do
      let (r, rest, groups) ← plain fuel f groups rest
      return (r.map (.ahead true), rest, groups)
    | '?' :: '<' :: '=' :: rest => do
      let (r, rest, groups) ← plain fuel f groups rest
      return (← fixedWidth false r, rest, groups)
    | '?' :: '<' :: '!' :: rest => do
      let (r, rest, groups) ← plain fuel f groups rest
      return (← fixedWidth true r, rest, groups)
    | '?' :: 'P' :: '<' :: rest => do
      let (name, rest) ← until? '>' rest
      if isGroupName name && (groups.names.lookup name).isNone then
        capturing fuel f (groups.enter (some name)) rest
      else none
    | '?' :: 'P' :: '=' :: rest => do
      let (name, rest) ← until? ')' rest
      let index ← groups.names.lookup name
      if groups.open.contains index then none
      else return (some (.backref index f.compare), rest, groups)
    | '?' :: rest =>
      let ((on, off), rest) := flagLetters rest
      if on.isEmpty && (off.getD []).isEmpty then none
      else do
        let f ← f.setAll? true on
        let f ← f.setAll? false (off.getD [])
        match rest with
        | ':' :: rest => plain fuel f groups rest
        | _ => none
    | _ => capturing fuel f (groups.enter none) cs
where
  /-- Reads a group that does not capture. -/
  plain (fuel : Nat) (f : Flags) (groups : Groups) (cs : List Char) :
      Option (Parsed (Option Regex)) := do
    let (r, rest, groups) ← alternatives fuel f groups cs
    match rest with
    | ')' :: rest => return (some r, rest, groups)
    | _ => none
  /-- Reads a group that has been entered. -/
  capturing (fuel : Nat) (f : Flags) (groups : Groups) (cs : List Char) :
      Option (Parsed (Option Regex)) := do
    let index := groups.count
    let (r, rest, groups) ← alternatives fuel f groups cs
    match rest with
    | ')' :: rest => return (some (.group index r), rest, groups.leave index)
    | _ => none
  /-- A condition on the text behind, whose matches all have one width. -/
  fixedWidth (negated : Bool) : Option Regex → Option (Option Regex)
    | none => some none
    | some r =>
      match r.width with
      | (low, some high) => if low = high then some (some (.behind negated low r)) else none
      | (_, none) => none

end

/-- The flags that stand for the whole expression at its head, perhaps between comments, and the
text behind them. -/
def headFlags : Nat → Flags → List Char → Option (Flags × List Char)
  | 0, f, cs => some (f, cs)
  | fuel + 1, f, cs =>
    match cs with
    | '(' :: '?' :: '#' :: rest => do
      let (_, rest) ← until? ')' rest
      headFlags fuel f rest
    | '(' :: '?' :: rest =>
      match flagLetters rest with
      | ((on, none), ')' :: rest) =>
        if on.isEmpty then some (f, cs)
        else do
          let f ← f.setAll? true on
          headFlags fuel f rest
      | _ => some (f, cs)
    | c :: rest =>
      if f.verbose && Text.isBlank c then headFlags fuel f rest
      else if f.verbose && c = '#' then headFlags fuel f (rest.dropWhile (· ≠ '\n'))
      else some (f, cs)
    | [] => some (f, cs)

def parse? (s : List Char) : Option Regex := do
  let (f, rest) ← headFlags s.length {} s
  let (r, rest, _) ← alternatives (3 * rest.length + 3) f {} rest
  if rest.isEmpty then return r else none

/-- Whether a text holds a match of a written expression; an expression that cannot be read has
none. -/
def found (pattern s : List Char) : Bool :=
  match parse? pattern with
  | some r => r.search s
  | none => false

end ChatHost.Regex
