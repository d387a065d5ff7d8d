import ChatHost.Path
import ChatHost.Proofs.Text.Cut
import Mathlib.Tactic.Common

set_option autoImplicit false

/-!
Paths in normal form. The text of such a path writes the path and no other one; and where home
directories take the place of their marks, paths stay in this form.
-/

namespace ChatHost.Path

/-- A path in normal form: its components have text, are no dots and hold no slash. -/
def IsNormal (p : Path) : Prop :=
  ∀ part ∈ p.parts, isComponent part.toList ∧ '/' ∉ part.toList

theorem isNormal_ofChars (s : List Char) : (ofChars s).IsNormal := by
  intro part hpart
  obtain ⟨piece, hpiece, rfl⟩ := List.mem_map.1 hpart
  obtain ⟨hmem, hcomponent⟩ := List.mem_filter.1 hpiece
  rw [String.toList_ofList]
  exact ⟨hcomponent, Text.not_mem_of_mem_pieces hmem⟩

theorem isNormal_ofString (s : String) : (ofString s).IsNormal :=
  isNormal_ofChars s.toList

theorem IsNormal.child {p : Path} (hp : p.IsNormal) {name : String}
    (hname : isComponent name.toList ∧ '/' ∉ name.toList) : (p.child name).IsNormal := by
  intro part hpart
  rcases List.mem_append.1 hpart with hpart | hpart
  · exact hp part hpart
  · rw [List.mem_singleton.1 hpart]
    exact hname

variable {s : List Char}

theorem Root.ofChars_relative (h : s.head? ≠ some '/') : Root.ofChars s = .relative := by
  unfold Root.ofChars
  split <;> simp_all

theorem Root.ofChars_text (root : Root) (h : s.head? ≠ some '/') :
    Root.ofChars (root.text ++ s) = root := by
  cases root with
  | relative => exact ofChars_relative h
  | absolute =>
    cases s with
    | nil => rfl
    | cons c s =>
      have hc : c ≠ '/' := fun heq => h (heq ▸ rfl)
      simp [Root.text, Root.ofChars, hc]
  | doubled =>
    cases s with
    | nil => rfl
    | cons c s =>
      have hc : c ≠ '/' := fun heq => h (heq ▸ rfl)
      simp [Root.text, Root.ofChars, hc]

section

variable {parts : List (List Char)}

theorem head?_joined (h : ∀ cs ∈ parts, isComponent cs ∧ '/' ∉ cs) :
    (Text.joined ['/'] parts).head? ≠ some '/' := by
  cases parts with
  | nil => decide
  | cons first rest =>
    obtain ⟨hcomponent, hslash⟩ := h first List.mem_cons_self
    cases first with
    | nil => exact absurd hcomponent (by decide)
    | cons c cs =>
      have hc : c ≠ '/' := fun heq => hslash (heq ▸ List.mem_cons_self)
      cases rest <;> simpa [Text.joined] using hc

theorem filter_pieces_joined (h : ∀ cs ∈ parts, isComponent cs ∧ '/' ∉ cs) :
    (Text.pieces '/' (Text.joined ['/'] parts)).filter isComponent = parts := by
  by_cases hparts : parts = []
  · rw [hparts]
    decide
  · rw [Text.pieces_joined hparts fun cs hcs => (h cs hcs).2]
    exact List.filter_eq_self.2 fun cs hcs => (h cs hcs).1

theorem ofChars_joined (root : Root) (h : ∀ cs ∈ parts, isComponent cs ∧ '/' ∉ cs) :
    ofChars (root.text ++ Text.joined ['/'] parts) = ⟨root, parts.map String.ofList⟩ := by
  have hpieces : (Text.pieces '/' (root.text ++ Text.joined ['/'] parts)).filter isComponent =
      (Text.pieces '/' (Text.joined ['/'] parts)).filter isComponent := by
    -- each slash of the root has an empty piece in front
    cases root with
    | relative => rfl
    | absolute =>
      rw [show Root.absolute.text = ['/'] from rfl, List.singleton_append, Text.pieces_cons_self]
      rfl
    | doubled =>
      rw [show Root.doubled.text = ['/', '/'] from rfl, List.cons_append, List.singleton_append,
        Text.pieces_cons_self, Text.pieces_cons_self]
      rfl
  rw [ofChars, root.ofChars_text (head?_joined h), hpieces, filter_pieces_joined h]

end

/-- A path in normal form is what its text writes. -/
theorem ofString_text {p : Path} (h : p.IsNormal) : ofString p.text = p := by
  obtain ⟨root, parts⟩ := p
  have hparts : ∀ cs ∈ parts.map String.toList, isComponent cs ∧ '/' ∉ cs := by
    intro cs hcs
    obtain ⟨part, hpart, rfl⟩ := List.mem_map.1 hcs
    exact h part hpart
  have hwritten := ofChars_joined root hparts
  rw [List.map_map,
    show String.ofList ∘ String.toList = id from funext fun s => String.ofList_toList,
    List.map_id] at hwritten
  rw [ofString, text, String.toList_ofList, toChars]
  split
  · rename_i hroot hnil
    cases hroot
    cases hnil
    decide
  · exact hwritten

def IsMarked (p : Path) : Prop :=
  p.root = .relative ∧ ∃ first rest, p.parts = first :: rest ∧ isHomeMark first

def Homes.All (h : Homes) (P : Path → Prop) : Prop :=
  P h.own ∧ ∀ user home, h.ofUser user = some home → P home

variable {h : Homes} {p q : Path}

theorem expand?_of_unmarked (hp : ¬ p.IsMarked) : p.expand? h = some p := by
  obtain ⟨root, parts⟩ := p
  unfold expand?
  split
  · rename_i first rest hroot hparts
    exact if_neg fun hmark => hp ⟨hroot, first, rest, hparts, hmark⟩
  · rfl

theorem Homes.find?_all {P : Path → Prop} (hP : h.All P) {component : String} {home : Path}
    (hfind : h.find? component = some home) : P home := by
  unfold Homes.find? at hfind
  split at hfind
  · cases hfind
    exact hP.1
  · exact hP.2 _ home hfind
  · cases hfind

/-- The path with a home directory in place of the mark is the path itself, or starts with a
home. -/
theorem expand?_cases (hexpand : p.expand? h = some q) :
    (¬ p.IsMarked ∧ q = p) ∨ ∃ first rest home, p.parts = first :: rest ∧
      h.find? first = some home ∧ q = ⟨home.root, home.parts ++ rest⟩ := by
  by_cases hp : p.IsMarked
  · obtain ⟨hroot, first, rest, hparts, hmark⟩ := hp
    unfold expand? at hexpand
    rw [hroot, hparts] at hexpand
    dsimp only at hexpand
    rw [if_pos hmark] at hexpand
    obtain ⟨home, hfind, hq⟩ := Option.map_eq_some_iff.1 hexpand
    exact .inr ⟨first, rest, home, hparts, hfind, hq.symm⟩
  · rw [expand?_of_unmarked hp] at hexpand
    exact .inl ⟨hp, (Option.some.inj hexpand).symm⟩

theorem IsNormal.expand (hp : p.IsNormal) (hh : h.All IsNormal) (hexpand : p.expand? h = some q) :
    q.IsNormal := by
  rcases expand?_cases hexpand with ⟨-, rfl⟩ | ⟨first, rest, home, hparts, hfind, rfl⟩
  · exact hp
  · intro part hpart
    rcases List.mem_append.1 hpart with hpart | hpart
    · exact Homes.find?_all hh hfind part hpart
    · exact hp part (hparts ▸ List.mem_cons_of_mem first hpart)

/-- Where homes do not depend on where one is, no mark is left. -/
theorem expand?_unmarked (hh : h.All fun home => home.root ≠ .relative)
    (hexpand : p.expand? h = some q) : ¬ q.IsMarked := by
  rcases expand?_cases hexpand with ⟨hp, rfl⟩ | ⟨first, rest, home, -, hfind, rfl⟩
  · exact hp
  · exact fun hmarked => Homes.find?_all hh hfind hmarked.1

end ChatHost.Path
