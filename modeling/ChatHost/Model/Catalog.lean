import ChatHost.Model.Basic

/-!
The catalog. A catalog identifier is the name of an entry, or the name, one of `-`, `_` and `.`, and
a quantization.
-/

namespace ChatHost.Model

def knownEntries : List CatalogEntry :=
  ["Llama-3.2-1B-Instruct", "Llama-3.2-3B-Instruct", "Mistral-7B-Instruct-v0.3",
    "Mixtral-8x7B-Instruct-v0.1", "gemma-2-2b-it", "gemma-2-9b-it", "gemma-2-27b-it"].map
    fun name => ⟨name, s!"Mozilla/{name}-llamafile", name⟩

def quantizations : List String :=
  ["Q6_K", "q4f16_1"]

def isQuantizationMark (c : Char) : Bool :=
  c == '-' || c == '_' || c == '.'

/-- The quantization that the text behind a name asks for, if the text is of that form. -/
def quantizationAfter? : List Char → Option (Option String)
  | [] => some none
  | c :: rest =>
    if isQuantizationMark c then
      (quantizations.find? fun q => q.toList = rest).map some
    else none

/-- The text behind the first argument when the second starts with it. -/
def behind? : List Char → List Char → Option (List Char)
  | [], s => some s
  | _ :: _, [] => none
  | c :: cs, d :: ds => if c = d then behind? cs ds else none

def readAs? (s : List Char) (entry : CatalogEntry) : Option Model :=
  ((behind? entry.name.toList s).bind quantizationAfter?).map (.catalog entry)

def ofCatalog? (s : List Char) : Option Model :=
  knownEntries.findSome? (readAs? s)

end ChatHost.Model
