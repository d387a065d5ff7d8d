/-!
Cutting text at a character.
-/

namespace ChatHost.Text

/-- The text before the first `c`, and what follows it if there is one. -/
def cutFirst (c : Char) (s : List Char) : List Char × Option (List Char) :=
  (s.takeWhile (· ≠ c), (s.dropWhile (· ≠ c)).tail?)

/-- The text before the last `c` if there is one, and what follows it. -/
def cutLast (c : Char) (s : List Char) : Option (List Char) × List Char :=
  let (after, before) := cutFirst c s.reverse
  (before.map List.reverse, after.reverse)

/-- The pieces of a text between the places of `c`; there is one more piece than places. -/
def pieces (c : Char) : List Char → List (List Char)
  | [] => [[]]
  | d :: rest =>
    if d = c then [] :: pieces c rest
    else
      match pieces c rest with
      | [] => [[d]]
      | p :: ps => (d :: p) :: ps

/-- The first line of a text with its line end, if it has one, and what follows it. -/
def readLine (s : List Char) : List Char × List Char :=
  match cutFirst '\n' s with
  | (line, some rest) => (line ++ ['\n'], rest)
  | (line, none) => (line, [])

theorem length_cutFirst_lt {c : Char} {s rest : List Char} (h : (cutFirst c s).2 = some rest) :
    rest.length < s.length := by
  have hdrop : (s.dropWhile (· ≠ c)).length ≤ s.length := (List.dropWhile_sublist _).length_le
  change (s.dropWhile (· ≠ c)).tail? = some rest at h
  generalize s.dropWhile (· ≠ c) = after at h hdrop
  cases after with
  | nil => cases h
  | cons d after =>
    cases h
    exact hdrop

/-- Behind a line there is less of the text. -/
theorem length_readLine_lt {s : List Char} (h : (readLine s).1 ≠ []) :
    (readLine s).2.length < s.length := by
  unfold readLine at h ⊢
  split
  · rename_i line rest hcut
    exact length_cutFirst_lt (congrArg Prod.snd hcut)
  · rename_i line hcut
    rw [hcut] at h
    have hline : s.takeWhile (· ≠ '\n') ≠ [] := fun hnil =>
      h ((congrArg Prod.fst hcut).symm.trans hnil)
    have hs : s ≠ [] := fun hnil => hline (by rw [hnil]; rfl)
    exact List.length_pos_iff.2 hs

def joined (sep : List Char) : List (List Char) → List Char
  | [] => []
  | [p] => p
  | p :: q :: ps => p ++ sep ++ joined sep (q :: ps)

def endsWith (s suffix : List Char) : Bool :=
  suffix.reverse.isPrefixOf s.reverse

end ChatHost.Text
