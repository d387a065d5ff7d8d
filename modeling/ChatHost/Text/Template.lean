/-!
Templates: text in which names in braces stand for values.
-/

namespace ChatHost.Text

/-- What a template comes to. A name in braces stands for its value, in which braces are text like
any other; two braces of a kind stand for one. Nothing comes of any other brace, nor of a name
without a value. The first argument is the part of a name that has been read, from its end. -/
def fill (value? : String → Option String) : Option (List Char) → List Char → Option (List Char)
  | none, [] => some []
  | none, '\x7b' :: '\x7b' :: rest => (fill value? none rest).map ('\x7b' :: ·)
  | none, '\x7b' :: rest => fill value? (some []) rest
  | none, '\x7d' :: '\x7d' :: rest => (fill value? none rest).map ('\x7d' :: ·)
  | none, '\x7d' :: _ => none
  | none, c :: rest => (fill value? none rest).map (c :: ·)
  | some _, [] => none
  | some _, '\x7b' :: _ => none
  | some name, '\x7d' :: rest =>
    (value? (String.ofList name.reverse)).bind fun value =>
      (fill value? none rest).map (value.toList ++ ·)
  | some name, c :: rest => fill value? (some (c :: name)) rest

def filled (value? : String → Option String) (template : String) : Option String :=
  (fill value? none template.toList).map String.ofList

end ChatHost.Text
