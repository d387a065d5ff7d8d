import ChatHost.Decimal.Digits
import ChatHost.Text.Cut

/-!
Network addresses in their written forms: IPv4 in four decimal parts, IPv6 in eight hexadecimal
groups of which one run of zeros may be left out, with an optional zone.
-/

namespace ChatHost.Url

/-- A decimal part of an IPv4 address: at most 255, no zero in front. -/
def isOctet (s : List Char) : Bool :=
  !s.isEmpty && s.length ≤ 3 && s.all (fun c => '0' ≤ c && c ≤ '9') &&
    (s = ['0'] || s.head? ≠ some '0') && Decimal.ofAscii s ≤ 255

def isIPv4 (s : List Char) : Bool :=
  let parts := Text.pieces '.' s
  parts.length = 4 && parts.all isOctet

def isGroup (s : List Char) : Bool :=
  !s.isEmpty && s.length ≤ 4 && s.all fun c => (Decimal.hexValue? c).isSome

/-- The groups of an IPv6 address, an IPv4 address at the end standing for two of them. -/
def addressGroups? (s : List Char) : Option (List (List Char)) :=
  let parts := Text.pieces ':' s
  match parts.getLast? with
  | some last =>
    if last.contains '.' then
      if isIPv4 last then some (parts.dropLast ++ [['0'], ['0']]) else none
    else some parts
  | none => none

/-- Whether groups around the left-out zeros are well formed: `high` before them, `low` after. A
side may be empty, and shows as one empty group. -/
def isAbridged (high low : List (List Char)) : Bool :=
  let high := if high = [[]] then [] else high
  let low := if low = [[]] then [] else low
  high.all isGroup && low.all isGroup && high.length + low.length < 8

/-- Splits groups at the first empty one that is neither first nor last. -/
def splitAtGap (groups : List (List Char)) : Option (List (List Char) × List (List Char)) :=
  match groups with
  | [] => none
  | first :: rest =>
    let high := rest.dropLast.takeWhile fun g => !g.isEmpty
    if high.length < rest.dropLast.length then
      some (first :: high, rest.drop (high.length + 1))
    else none

def isPlainIPv6 (s : List Char) : Bool :=
  if (Text.pieces ':' s).length < 3 then false
  else
    match addressGroups? s with
    | none => false
    | some groups =>
      groups.length ≤ 9 &&
        match splitAtGap groups with
        | none => groups.length = 8 && groups.all isGroup
        | some (high, low) => isAbridged high low

/-- An IPv6 address, with a zone after a percent sign if there is one. -/
def isIPv6 (s : List Char) : Bool :=
  if s.contains '/' then false
  else
    match Text.cutFirst '%' s with
    | (address, none) => isPlainIPv6 address
    | (address, some zone) => !zone.isEmpty && !zone.contains '%' && isPlainIPv6 address

/-- An address of a later version: `v`, hexadecimal digits, a point, and more. -/
def isLaterAddress (s : List Char) : Bool :=
  match s with
  | 'v' :: rest =>
    let version := rest.takeWhile fun c => (Decimal.hexValue? c).isSome
    match rest.drop version.length with
    | '.' :: more => !version.isEmpty && !more.isEmpty
    | _ => false
  | _ => false

end ChatHost.Url
