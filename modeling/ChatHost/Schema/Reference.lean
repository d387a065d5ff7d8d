import ChatHost.Schema.Dialect
import ChatHost.Schema.Violation
import ChatHost.Text.Cut
import ChatHost.Text.Digit
import ChatHost.Url.Percent

/-!
References inside of a schema: the whole document, a pointer into it, or an anchor in it.
-/

namespace ChatHost.Schema

/-- A segment of a pointer with its escapes undone: `~1` is a slash and `~0` a tilde. -/
def unescapeSegment : List Char → List Char
  | '~' :: '1' :: rest => '/' :: unescapeSegment rest
  | '~' :: '0' :: rest => '~' :: unescapeSegment rest
  | c :: rest => c :: unescapeSegment rest
  | [] => []

def child? (v : Json) (segment : List Char) : Option Json :=
  match v with
  | .obj ms => OrderedMap.get? ms (String.ofList (unescapeSegment segment))
  | .arr items =>
    if !segment.isEmpty && segment.all Text.isAsciiDigit then items[Decimal.ofAscii segment]?
    else none
  | _ => none

def follow? (v : Json) : List (List Char) → Option Json
  | [] => some v
  | s :: ss => (child? v s).bind (follow? · ss)

def behindNumberSign? (keyword : String) (ms : List (String × Json)) : Option String :=
  match ((OrderedMap.get? ms keyword).bind Json.str?).map String.toList with
  | some ('#' :: name) => some (String.ofList name)
  | _ => none

def Dialect.anchors (d : Dialect) (ms : List (String × Json)) : List String :=
  match d with
  | .draft4 => (behindNumberSign? "id" ms).toList
  | .draft7 => (behindNumberSign? "$id" ms).toList
  | .draft2020 =>
    ["$anchor", "$dynamicAnchor"].filterMap fun k => (OrderedMap.get? ms k).bind Json.str?

mutual

/-- The schema inside a value that has an anchor of a given name. -/
def anchored? (d : Dialect) (name : String) : Json → Option Json
  | .obj ms =>
    if (d.anchors ms).contains name then some (.obj ms) else anchoredMember? d name ms
  | .arr items => anchoredItem? d name items
  | _ => none

/-- The schema in one of the items that has an anchor of a given name. -/
def anchoredItem? (d : Dialect) (name : String) : List Json → Option Json
  | [] => none
  | x :: xs => (anchored? d name x).or (anchoredItem? d name xs)

/-- The schema in one of the members that has an anchor of a given name. -/
def anchoredMember? (d : Dialect) (name : String) : List (String × Json) → Option Json
  | [] => none
  | (_, v) :: ms => (anchored? d name v).or (anchoredMember? d name ms)

end

def resolvePointer (document : Json) (pointer : List Char) : Except ReferenceFault Json :=
  match follow? document (Text.pieces '/' (Url.percentDecode pointer)) with
  | some v => .ok v
  | none => .error (.pointer (String.ofList ('/' :: pointer)) document.shown)

def resolveAnchor (d : Dialect) (document : Json) (name : String) : Except ReferenceFault Json :=
  match anchored? d name document with
  | some v => .ok v
  | none =>
    if name.toList.contains '/' then .error (.malformed name)
    else .error (.anchor name document.shown)

def resolve (d : Dialect) (document : Json) (reference : String) : Except Fault Json :=
  let found : Except ReferenceFault Json := match reference.toList with
    | [] | ['#'] => .ok document
    | '#' :: '/' :: pointer => resolvePointer document pointer
    | '#' :: name => resolveAnchor d document (String.ofList name)
    | _ => .error (.document reference)
  found.mapError .reference

end ChatHost.Schema
