import ChatHost.Json.Basic
import ChatHost.Text.Quoted

/-!
Values as messages show them: quoted text, lists in brackets, objects as quoted keys and values, and
the words `True`, `False` and `None`.
-/

namespace ChatHost.Json

mutual

/-- A value as messages show it inside other values. -/
def shownChars : Json → List Char
  | .null => ['N', 'o', 'n', 'e']
  | .bool true => ['T', 'r', 'u', 'e']
  | .bool false => ['F', 'a', 'l', 's', 'e']
  | .num n => n.write Decimal.displayLayout
  | .str s => Text.quotedChars s.toList
  | .arr [] => ['[', ']']
  | .arr (item :: items) => '[' :: (shownChars item ++ shownItems items ++ [']'])
  | .obj [] => ['\x7b', '\x7d']
  | .obj ((k, v) :: ms) =>
    '\x7b' ::
      (Text.quotedChars k.toList ++ [':', ' '] ++ shownChars v ++ shownMembers ms ++ ['\x7d'])

def shownItems : List Json → List Char
  | [] => []
  | item :: items => [',', ' '] ++ shownChars item ++ shownItems items

def shownMembers : List (String × Json) → List Char
  | [] => []
  | (k, v) :: ms =>
    [',', ' '] ++ Text.quotedChars k.toList ++ [':', ' '] ++ shownChars v ++ shownMembers ms

end

/-- A value as messages show it, a string in quotes. -/
def shown (v : Json) : String :=
  String.ofList v.shownChars

/-- A value as text: a string as it is, anything else as messages show it. -/
def toText : Json → String
  | .str s => s
  | v => v.shown

def typeWord : Json → String
  | .null => "NoneType"
  | .bool _ => "bool"
  | .num (.int _) => "int"
  | .num (.real _) => "float"
  | .str _ => "str"
  | .arr _ => "list"
  | .obj _ => "dict"

end ChatHost.Json
