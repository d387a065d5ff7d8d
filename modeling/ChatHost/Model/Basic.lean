/-!
Models that can be hosted: entries of the catalog, and models at a URL of the caller. Either has one
file name in the cache and one URL from which the file comes.
-/

namespace ChatHost

/-- A model that is known by name. -/
structure CatalogEntry where
  name : String
  repository : String
  baseFileName : String
  deriving DecidableEq, Repr

/-- A catalog entry, perhaps in a given quantization, or a model at a URL. -/
inductive Model where
  | catalog (entry : CatalogEntry) (quantization : Option String)
  | url (address : String) (name : String)
  deriving DecidableEq, Repr

namespace Model

/-- The quantization of a catalog model for which none is asked. -/
def defaultQuantization : String :=
  "Q6_K"

def fileName : Model → String
  | .catalog entry quantization =>
    s!"{entry.baseFileName}.{quantization.getD defaultQuantization}.llamafile"
  | .url _ name => name

def downloadUrl : Model → String
  | m@(.catalog entry _) =>
    s!"https://huggingface.co/{entry.repository}/resolve/main/{m.fileName}?download=true"
  | .url address _ => address

def label : Model → String
  | .catalog entry _ => entry.name
  | .url address _ => address

end Model

end ChatHost
