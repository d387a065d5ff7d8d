import ChatHost.FileTree
import ChatHost.Proofs.OrderedMap
import Mathlib.Data.List.Infix

set_option autoImplicit false

/-!
File trees in which everything is in a directory. The operations keep this, and each of them is
known by what is at every place after it.
-/

namespace ChatHost.FileTree

/-- A tree in which everything is in a directory, and is kept once. -/
structure Rooted (t : FileTree) : Prop where
  keys : (OrderedMap.keys t.nodes).Nodup
  above (place : List String) (name : String) (node : Node) :
    t.node? (place ++ [name]) = some node → t.node? place = some .directory
  start : t.node? t.start = some .directory

/-- Whether a tree has at least the directories of another, and relative paths start and modes can
be changed where they do there. -/
structure Extends (t t' : FileTree) : Prop where
  directory (place : List String) :
    t.node? place = some .directory → t'.node? place = some .directory
  start : t'.start = t.start
  modes : t'.modeRefusal? = t.modeRefusal?

/-- What is in the file at a place; nothing when there is no file. -/
def contentAt (t : FileTree) (place : List String) : Text.Bytes :=
  match t.node? place with
  | some (.file content _) => content
  | _ => []

variable {t t' : FileTree} {p source target : Path} {place here there : List String}

theorem Extends.refl (t : FileTree) : t.Extends t :=
  ⟨fun _ h => h, rfl, rfl⟩

theorem Extends.trans {u : FileTree} (h : t.Extends t') (h' : t'.Extends u) : t.Extends u :=
  ⟨fun place hp => h'.directory place (h.directory place hp), h'.start.trans h.start,
    h'.modes.trans h.modes⟩

theorem node?_nil (t : FileTree) : t.node? [] = some .directory :=
  rfl

theorem node?_of_ne (t : FileTree) (h : place ≠ []) :
    t.node? place = OrderedMap.get? t.nodes place := by
  rw [node?, if_neg (by simpa using h)]

theorem ne_nil_of_node? {node : Option Node} (h : t.node? place = node)
    (hn : node ≠ some .directory) : place ≠ [] := by
  rintro rfl
  exact hn (h.symm.trans (node?_nil t))

theorem node?_put (t : FileTree) (h : place ≠ []) (node : Node) (q : List String) :
    (t.put place node).node? q = if q = place then some node else t.node? q := by
  by_cases hq : q = []
  · subst hq
    rw [if_neg (Ne.symm h), node?_nil, node?_nil]
  · rw [node?_of_ne _ hq, node?_of_ne _ hq, put, OrderedMap.get?_put]

theorem node?_prune (t : FileTree) (place q : List String) (h : q ≠ []) :
    (t.prune place).node? q = if place.isPrefixOf q then none else t.node? q := by
  rw [node?_of_ne _ h, node?_of_ne _ h, prune]
  rw [OrderedMap.get?_filter (p := fun q => !place.isPrefixOf q)]
  cases place.isPrefixOf q <;> rfl

theorem Rooted.above_dropLast (h : t.Rooted) {node : Node} (hp : t.node? place = some node) :
    t.node? place.dropLast = some .directory := by
  rcases List.eq_nil_or_concat' place with rfl | ⟨q, name, rfl⟩
  · exact node?_nil t
  · rw [List.dropLast_concat]
    exact h.above q name node hp

theorem rooted_empty : ({} : FileTree).Rooted where
  keys := List.nodup_nil
  above place name node h := by
    rw [node?_of_ne _ (by simp)] at h
    cases h
  start := rfl

/-- There is nothing below what is no directory. -/
theorem Rooted.below (h : t.Rooted) (hp : t.node? place ≠ some .directory) {q : List String}
    (hq : place <+: q) (hne : q ≠ place) : t.node? q = none := by
  obtain ⟨rest, rfl⟩ := hq
  induction rest using List.reverseRecOn with
  | nil => exact absurd (List.append_nil place) hne
  | append_singleton rest name ih =>
    cases hnode : t.node? (place ++ (rest ++ [name])) with
    | none => rfl
    | some node =>
      rw [← List.append_assoc] at hnode
      have habove := h.above _ _ _ hnode
      by_cases hnil : place ++ rest = place
      · exact absurd (hnil ▸ habove) hp
      · rw [ih hnil] at habove
        cases habove

def onward (place : List String) (name : String) : List String :=
  if name = ".." then place.dropLast else place ++ [name]

theorem descend_cons (name : String) (rest : List String) :
    t.descend place (name :: rest) = .ok here ↔
      t.node? place = some .directory ∧ (Text.utf8 name).length ≤ longestName ∧
        t.descend (onward place name) rest = .ok here := by
  rw [descend, onward]
  split
  · simp [*]
  · simp [*]
  · rename_i hplace
    rw [← Nat.not_lt]
    split_ifs with hlength <;> simp [hplace, hlength]

theorem descend_concat (parts : List String) (name : String) :
    t.descend place (parts ++ [name]) = .ok here ↔
      ∃ q, t.descend place parts = .ok q ∧ t.node? q = some .directory ∧
        (Text.utf8 name).length ≤ longestName ∧ onward q name = here := by
  induction parts generalizing place with
  | nil =>
    rw [List.nil_append, descend_cons]
    simp [descend]
  | cons first rest ih =>
    rw [List.cons_append, descend_cons, ih]
    simp only [descend_cons]
    constructor
    · rintro ⟨hdir, hfirst, q, hq, h⟩
      exact ⟨q, ⟨hdir, hfirst, hq⟩, h⟩
    · rintro ⟨q, ⟨hdir, hfirst, hq⟩, h⟩
      exact ⟨hdir, hfirst, q, hq, h⟩

/-- Where a way down leads, there is a directory above. -/
theorem Rooted.descend_above (h : t.Rooted) (parts : List String)
    (hp : t.node? place.dropLast = some .directory) (hr : t.descend place parts = .ok here) :
    t.node? here.dropLast = some .directory := by
  induction parts generalizing place with
  | nil =>
    obtain rfl : place = here := Except.ok.inj hr
    exact hp
  | cons name rest ih =>
    obtain ⟨hplace, -, hr⟩ := (descend_cons name rest).1 hr
    refine ih ?_ hr
    rw [onward]
    split
    · exact h.above_dropLast hp
    · rw [List.dropLast_concat]
      exact hplace

theorem Rooted.locate_above (h : t.Rooted) (hp : t.locate p = .ok place) :
    t.node? place.dropLast = some .directory := by
  refine h.descend_above p.parts ?_ hp
  split
  · exact h.above_dropLast h.start
  · exact node?_nil t

theorem Extends.descend (h : t.Extends t') (parts : List String)
    (hr : t.descend place parts = .ok here) : t'.descend place parts = .ok here := by
  induction parts generalizing place with
  | nil => exact hr
  | cons name rest ih =>
    obtain ⟨hplace, hlength, hr⟩ := (descend_cons name rest).1 hr
    exact (descend_cons name rest).2 ⟨h.directory _ hplace, hlength, ih hr⟩

/-- A path leads to the same place where there are more directories. -/
theorem Extends.locate (h : t.Extends t') (hp : t.locate p = .ok place) :
    t'.locate p = .ok place := by
  rw [FileTree.locate, h.start]
  exact h.descend p.parts hp

theorem locate_child {dir : Path} {name : String} :
    t.locate (dir.child name) = .ok here ↔
      ∃ q, t.locate dir = .ok q ∧ t.node? q = some .directory ∧
        (Text.utf8 name).length ≤ longestName ∧ onward q name = here :=
  descend_concat dir.parts name

theorem stat_of_locate (h : t.locate p = .ok place) :
    t.stat p = match t.node? place with
      | none => .error (failure 2 p)
      | some node => .ok node := by
  cases hn : t.node? place <;> simp only [stat, h, hn]

/-- What a path without a directory at its place is found to be is a file. -/
theorem file_of_stat (hp : t.locate p = .ok place) (hd : t.node? place ≠ some .directory)
    {node : Node} (hn : t.stat p = .ok node) :
    ∃ mode, t.node? place = some (.file (t.contentAt place) mode) ∧
      node = .file (t.contentAt place) mode := by
  rw [stat_of_locate hp] at hn
  cases hh : t.node? place with
  | none => simp [hh] at hn
  | some n =>
    cases n with
    | directory => exact absurd hh hd
    | file c mode =>
      rw [hh] at hn
      rw [contentAt, hh]
      exact ⟨mode, rfl, (Except.ok.inj hn).symm⟩

theorem isDirectory_iff :
    t.isDirectory p ↔ ∃ place, t.locate p = .ok place ∧ t.node? place = some .directory := by
  cases hp : t.locate p with
  | error number => simp [isDirectory, stat, hp]
  | ok place =>
    rw [isDirectory, stat_of_locate hp]
    cases hn : t.node? place with
    | none => simp [hn]
    | some node => cases node <;> simp [hn]

theorem Extends.isDirectory (h : t.Extends t') (hp : t.isDirectory p) : t'.isDirectory p := by
  obtain ⟨place, hplace, hd⟩ := isDirectory_iff.1 hp
  exact isDirectory_iff.2 ⟨place, h.locate hplace, h.directory place hd⟩

theorem Rooted.put (h : t.Rooted) (node : Node) (hp : t.node? place.dropLast = some .directory)
    (hne : place ≠ []) (hd : t.node? place = some .directory → node = .directory) :
    (t.put place node).Rooted ∧ t.Extends (t.put place node) := by
  have hdirectory : ∀ q, t.node? q = some .directory →
      (t.put place node).node? q = some .directory := by
    intro q hq
    rw [node?_put _ hne]
    split_ifs with heq
    · rw [hd (heq ▸ hq)]
    · exact hq
  refine ⟨⟨OrderedMap.nodup_keys_put h.keys _ _, fun q name n hn => ?_, ?_⟩,
    ⟨hdirectory, rfl, rfl⟩⟩
  · rw [node?_put _ hne] at hn
    split_ifs at hn with heq
    · rw [← heq, List.dropLast_concat] at hp
      exact hdirectory q hp
    · exact hdirectory q (h.above q name n hn)
  · exact hdirectory _ h.start

/-- Editing a file that is, or can be, at a place. -/
theorem edit_eq (hp : t.locate p = .ok place) (hd : t.node? place ≠ some .directory)
    (f : Text.Bytes → Text.Bytes) :
    ∃ mode, t.edit p f = .ok (t.put place (.file (f (t.contentAt place)) mode)) := by
  cases hn : t.node? place with
  | none => exact ⟨newFileMode, by simp only [edit, hp, contentAt, hn]⟩
  | some node =>
    cases node with
    | file content mode => exact ⟨mode, by simp only [edit, hp, contentAt, hn]⟩
    | directory => exact absurd hn hd

/-- A file that can be edited is at a place where no directory is. -/
theorem locate_of_edit {f : Text.Bytes → Text.Bytes} (h : t.edit p f = .ok t') :
    ∃ place, t.locate p = .ok place ∧ t.node? place ≠ some .directory := by
  cases hp : t.locate p with
  | error number => simp [edit, hp] at h
  | ok place =>
    refine ⟨place, rfl, fun hd => ?_⟩
    simp [edit, hp, hd] at h

theorem changeMode_eq {content : Text.Bytes} {mode : Nat} (hp : t.locate p = .ok place)
    (hf : t.node? place = some (.file content mode)) (f : Nat → Nat) :
    t.changeMode p f = match t.modeRefusal? place with
      | some number => .error (failure number p)
      | none => .ok (t.put place (.file content (f mode))) := by
  cases hr : t.modeRefusal? place <;> simp only [changeMode, hp, hf, hr]

theorem makeDirectory_of_isDirectory (h : t.isDirectory p) :
    t.makeDirectory p = .error (failure 17 p) := by
  obtain ⟨place, hplace, hd⟩ := isDirectory_iff.1 h
  simp only [makeDirectory, hplace, hd]

/-- Where a directory is, none has to be made. -/
theorem ensureDirectories_of_isDirectory (h : t.isDirectory p) :
    t.ensureDirectories p = (.ok (), t) := by
  have hensure : t.ensureDirectory p = .ok t := by
    rw [ensureDirectory, makeDirectory_of_isDirectory h]
    exact if_pos h
  rw [ensureDirectories]
  cases p.parts.length <;> simp only [ensureDirectoriesUp, hensure]

theorem Rooted.ensureDirectory (h : t.Rooted) (ht : t.ensureDirectory p = .ok t') :
    t'.Rooted ∧ t.Extends t' := by
  rw [FileTree.ensureDirectory] at ht
  split at ht
  · rename_i u hmade
    obtain rfl : u = t' := Except.ok.inj ht
    rw [makeDirectory] at hmade
    split at hmade
    · cases hmade
    · rename_i place hplace
      split at hmade
      · cases hmade
      · rename_i hnone
        obtain rfl := Except.ok.inj hmade
        exact h.put _ (h.locate_above hplace) (ne_nil_of_node? hnone (by simp)) (fun _ => rfl)
  · split at ht
    · obtain rfl := Except.ok.inj ht
      exact ⟨h, .refl t⟩
    · cases ht

theorem Rooted.ensureDirectoriesUp (h : t.Rooted) (up : Nat) :
    (t.ensureDirectoriesUp p up).2.Rooted ∧ t.Extends (t.ensureDirectoriesUp p up).2 := by
  induction up generalizing p with
  | zero =>
    rw [FileTree.ensureDirectoriesUp]
    split
    · rename_i hensure
      exact h.ensureDirectory hensure
    · exact ⟨h, .refl t⟩
  | succ up ih =>
    rw [FileTree.ensureDirectoriesUp]
    split
    · rename_i hensure
      exact h.ensureDirectory hensure
    · split
      · exact ⟨h, .refl t⟩
      · obtain ⟨hrooted, hextends⟩ := ih (p := p.parent)
        split
        · rename_i hup
          rw [hup] at hrooted hextends
          exact ⟨hrooted, hextends⟩
        · rename_i hup
          rw [hup] at hrooted hextends
          split
          · rename_i hensure
            obtain ⟨hrooted', hextends'⟩ := hrooted.ensureDirectory hensure
            exact ⟨hrooted', hextends.trans hextends'⟩
          · exact ⟨hrooted, hextends⟩

/-- Making directories keeps a tree rooted, also when it fails on the way. -/
theorem Rooted.ensureDirectories (h : t.Rooted) (p : Path) :
    (t.ensureDirectories p).2.Rooted ∧ t.Extends (t.ensureDirectories p).2 :=
  h.ensureDirectoriesUp p.parts.length

theorem move_onto_directory {content : Text.Bytes} {mode : Nat} (hs : t.locate source = .ok here)
    (ht : t.locate target = .ok there) (hhere : t.node? here = some (.file content mode))
    (hthere : t.node? there = some .directory) :
    t.move source target = .error (moveFailure 21 source target) := by
  simp only [move, hs, ht, hhere, hthere]

/-- Moving a file moves nothing but the file. -/
theorem Rooted.moveAll_file (h : t.Rooted) {content : Text.Bytes} {mode : Nat}
    (hhere : t.node? here = some (.file content mode)) (there : List String) :
    t.moveAll here there = ((t.prune here).prune there).put there (.file content mode) := by
  have hhere' : t.node? here ≠ some .directory := by simp [hhere]
  have hmoved : t.nodes.filter (fun entry => here.isPrefixOf entry.1) =
      [(here, .file content mode)] := by
    have hget : OrderedMap.get? t.nodes here = some (.file content mode) := by
      rw [← node?_of_ne t (ne_nil_of_node? rfl hhere'), hhere]
    rw [← OrderedMap.filter_key h.keys hget]
    refine List.filter_congr fun entry hentry => ?_
    rw [Bool.eq_iff_iff, List.isPrefixOf_iff_prefix, decide_eq_true_eq]
    constructor
    · intro hprefix
      by_contra hother
      have hnone := h.below hhere' hprefix hother
      rw [node?_of_ne, OrderedMap.get?_eq_none] at hnone
      · exact hnone (List.mem_map_of_mem hentry)
      · rintro hnil
        rw [hnil, List.prefix_nil] at hprefix
        exact hother (hnil.trans hprefix.symm)
    · rintro hsame
      rw [hsame]
  simp only [moveAll, hmoved, List.map_cons, List.map_nil, List.drop_length, List.append_nil]
  rfl

theorem Rooted.node?_moveAll (h : t.Rooted) {content : Text.Bytes} {mode : Nat}
    (hhere : t.node? here = some (.file content mode))
    (hthere : t.node? there ≠ some .directory) (q : List String) :
    (t.moveAll here there).node? q = if q = there then some (.file content mode)
      else if q = here then none else t.node? q := by
  have hhere' : t.node? here ≠ some .directory := by simp [hhere]
  rw [h.moveAll_file hhere, node?_put _ (ne_nil_of_node? rfl hthere)]
  by_cases hqt : q = there
  · rw [if_pos hqt, if_pos hqt]
  · rw [if_neg hqt, if_neg hqt]
    by_cases hnil : q = []
    · subst hnil
      rw [if_neg (Ne.symm (ne_nil_of_node? rfl hhere'))]
      rfl
    · rw [node?_prune _ _ _ hnil, node?_prune _ _ _ hnil]
      simp only [List.isPrefixOf_iff_prefix]
      split_ifs with hbelow hqh hhere'' hqh hqh
      · rfl
      · exact (h.below hthere hbelow hqt).symm
      · rfl
      · exact (h.below hhere' hhere'' hqh).symm
      · exact absurd (hqh ▸ List.prefix_refl here) hhere''
      · rfl

/-- Moving a file to a place where no directory is. -/
theorem Rooted.move (h : t.Rooted) {content : Text.Bytes} {mode : Nat}
    (hs : t.locate source = .ok here) (ht : t.locate target = .ok there) (hne : here ≠ there)
    (hhere : t.node? here = some (.file content mode))
    (hthere : t.node? there ≠ some .directory) :
    ∃ t', t.move source target = .ok t' ∧ t'.Rooted ∧ t.Extends t' ∧
      ∀ q, t'.node? q = if q = there then some (.file content mode)
        else if q = here then none else t.node? q := by
  have hmove : t.move source target = .ok (t.moveAll here there) := by
    cases hn : t.node? there with
    | none => simp only [FileTree.move, hs, ht, hhere, hn, if_neg hne]
    | some node =>
      cases node with
      | file => simp only [FileTree.move, hs, ht, hhere, hn, if_neg hne]
      | directory => exact absurd hn hthere
  have hnode := h.node?_moveAll hhere hthere
  have hextends : t.Extends (t.moveAll here there) := by
    refine ⟨fun q hq => ?_, rfl, rfl⟩
    rw [hnode, if_neg, if_neg, hq]
    · rintro rfl
      simp [hhere] at hq
    · rintro rfl
      exact hthere hq
  refine ⟨_, hmove, ⟨?_, fun q name node hn => ?_, ?_⟩, hextends, hnode⟩
  · rw [h.moveAll_file hhere]
    exact OrderedMap.nodup_keys_put
      (OrderedMap.nodup_keys_filter (OrderedMap.nodup_keys_filter h.keys _) _) _ _
  · refine hextends.directory q ?_
    rw [hnode] at hn
    split_ifs at hn with hqt hqh
    · have habove := h.locate_above ht
      rwa [← hqt, List.dropLast_concat] at habove
    · exact h.above q name node hn
  · exact hextends.directory _ h.start

end ChatHost.FileTree
