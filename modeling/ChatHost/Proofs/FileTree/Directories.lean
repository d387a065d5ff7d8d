import ChatHost.Proofs.FileTree

set_option autoImplicit false

/-!
What making directories changes. Directories come up where nothing was, none of them further down
than the path that is made; so a path that never goes back up leads to what it led to before.
-/

namespace ChatHost.FileTree

/-- Whether a tree is another one with more directories, none of them more than some steps down. -/
structure Adds (depth : Nat) (t t' : FileTree) : Prop where
  start : t'.start = t.start
  modes : t'.modeRefusal? = t.modeRefusal?
  nodes (place : List String) : t'.node? place = t.node? place ∨
    t.node? place = none ∧ t'.node? place = some .directory ∧ place.length ≤ depth

def base (t : FileTree) (p : Path) : List String :=
  if p.root = .relative then t.start else []

variable {t t' u : FileTree} {p : Path} {place here : List String} {depth : Nat}

theorem Adds.refl (t : FileTree) : t.Adds depth t :=
  ⟨rfl, rfl, fun _ => .inl rfl⟩

theorem Adds.trans (h : t.Adds depth t') (h' : t'.Adds depth u) : t.Adds depth u where
  start := h'.start.trans h.start
  modes := h'.modes.trans h.modes
  nodes place := by
    rcases h.nodes place with hsame | ⟨hnone, hmade, hdepth⟩
    · rw [← hsame]
      exact h'.nodes place
    · refine .inr ⟨hnone, ?_, hdepth⟩
      rcases h'.nodes place with hsame | ⟨hnone', -, -⟩
      · rw [hsame, hmade]
      · simp [hmade] at hnone'

theorem Adds.mono {depth' : Nat} (h : t.Adds depth t') (hle : depth ≤ depth') :
    t.Adds depth' t' where
  start := h.start
  modes := h.modes
  nodes place := (h.nodes place).imp_right fun hnew =>
    ⟨hnew.1, hnew.2.1, Nat.le_trans hnew.2.2 hle⟩

theorem Adds.keeps (h : t.Adds depth t') {node : Node} (hp : t.node? place = some node) :
    t'.node? place = some node := by
  rcases h.nodes place with hsame | ⟨hnone, -, -⟩
  · rw [hsame, hp]
  · simp [hp] at hnone

theorem Adds.extends (h : t.Adds depth t') : t.Extends t' :=
  ⟨fun _ hp => h.keeps hp, h.start, h.modes⟩

theorem descend_length {parts : List String} (h : t.descend place parts = .ok here) :
    here.length ≤ place.length + parts.length := by
  induction parts generalizing place with
  | nil =>
    obtain rfl : place = here := Except.ok.inj h
    exact Nat.le_refl _
  | cons name rest ih =>
    obtain ⟨-, -, hrest⟩ := (descend_cons name rest).1 h
    have honward : (onward place name).length ≤ place.length + 1 := by
      rw [onward]
      split <;> simp
      omega
    have hlength := ih hrest
    simp only [List.length_cons]
    omega

theorem ensureDirectory_cases (h : t.ensureDirectory p = .ok t') :
    t' = t ∧ t.isDirectory p ∨
      ∃ place, t.locate p = .ok place ∧ t.node? place = none ∧ t' = t.put place .directory := by
  unfold ensureDirectory at h
  split at h
  · rename_i made hmade
    cases h
    unfold makeDirectory at hmade
    split at hmade
    · cases hmade
    · rename_i place hplace
      split at hmade
      · cases hmade
      · rename_i hnone
        cases hmade
        exact .inr ⟨place, hplace, hnone, rfl⟩
  · split_ifs at h with hdirectory
    cases h
    exact .inl ⟨rfl, hdirectory⟩

theorem ensureDirectory_adds (h : t.ensureDirectory p = .ok t') :
    t.Adds ((t.base p).length + p.parts.length) t' := by
  rcases ensureDirectory_cases h with ⟨rfl, -⟩ | ⟨place, hplace, hnone, rfl⟩
  · exact .refl _
  · refine ⟨rfl, rfl, fun q => ?_⟩
    rw [node?_put t (ne_nil_of_node? hnone nofun)]
    by_cases hq : q = place
    · subst hq
      exact .inr ⟨hnone, if_pos rfl, descend_length hplace⟩
    · exact .inl (if_neg hq)

theorem Adds.base (h : t.Adds depth t') (p : Path) : t'.base p = t.base p := by
  rw [FileTree.base, FileTree.base, h.start]

theorem ensureDirectoriesUp_adds (up : Nat) :
    t.Adds ((t.base p).length + p.parts.length) (t.ensureDirectoriesUp p up).2 := by
  induction up generalizing p with
  | zero =>
    rw [ensureDirectoriesUp]
    split
    · rename_i hensure
      exact ensureDirectory_adds hensure
    · exact .refl t
  | succ up ih =>
    rw [ensureDirectoriesUp]
    split
    · rename_i hensure
      exact ensureDirectory_adds hensure
    · split
      · exact .refl t
      · have habove : t.Adds ((t.base p).length + p.parts.length)
            (t.ensureDirectoriesUp p.parent up).2 := by
          refine (ih (p := p.parent)).mono (Nat.add_le_add_left ?_ _)
          simp [Path.parent]
        split
        · rename_i hup
          rw [hup] at habove
          exact habove
        · rename_i hup
          rw [hup] at habove
          split
          · rename_i hensure
            refine habove.trans ?_
            rw [← habove.base p]
            exact ensureDirectory_adds hensure
          · exact habove

theorem ensureDirectories_adds (t : FileTree) (p : Path) :
    t.Adds ((t.base p).length + p.parts.length) (t.ensureDirectories p).2 :=
  ensureDirectoriesUp_adds _

/-- A path that never goes back up leads straight on. -/
theorem locate_straight {parts : List String} (h : t.descend place parts = .ok here)
    (hstraight : ".." ∉ parts) : here = place ++ parts := by
  induction parts generalizing place with
  | nil => simpa using (Except.ok.inj h).symm
  | cons name rest ih =>
    obtain ⟨-, -, hrest⟩ := (descend_cons name rest).1 h
    obtain ⟨hname, hstraight⟩ := not_or.1 (mt List.mem_cons.2 hstraight)
    rw [onward, if_neg (Ne.symm hname)] at hrest
    simpa using ih hrest hstraight

/-- Such a path that leads to something leads there also where directories are missing that nothing
depends on. -/
theorem Rooted.descend_of_node? (h : t.Rooted) {parts : List String}
    (hdescend : t'.descend place parts = .ok here) (hstraight : ".." ∉ parts) {node : Node}
    (hnode : t.node? here = some node) : t.descend place parts = .ok here := by
  induction parts using List.reverseRecOn generalizing here node with
  | nil => exact hdescend
  | append_singleton parts name ih =>
    obtain ⟨q, hq, -, hlength, honward⟩ := (descend_concat parts name).1 hdescend
    simp only [List.mem_append, List.mem_singleton, not_or] at hstraight
    rw [onward, if_neg (Ne.symm hstraight.2)] at honward
    subst honward
    have habove := h.above q name node hnode
    refine (descend_concat parts name).2 ⟨q, ih hq hstraight.1 habove, habove, hlength, ?_⟩
    rw [onward, if_neg (Ne.symm hstraight.2)]

theorem Adds.stat (h : t.Adds depth t') {node : Node} (hp : t.stat p = .ok node) :
    t'.stat p = .ok node := by
  cases hlocate : t.locate p with
  | error number => simp [FileTree.stat, hlocate] at hp
  | ok place =>
    rw [stat_of_locate hlocate] at hp
    rw [stat_of_locate (h.extends.locate hlocate)]
    cases hn : t.node? place with
    | none => simp [hn] at hp
    | some n =>
      rw [hn] at hp
      rwa [h.keeps hn]

/-- A path that never goes back up leads to what it led to before, when all that has been added is
further up. -/
theorem Adds.stat_straight (h : t.Adds depth t') (ht : t.Rooted) (hstraight : ".." ∉ p.parts)
    (hdepth : depth < (t.base p).length + p.parts.length) :
    (t'.stat p).toOption = (t.stat p).toOption := by
  cases hp' : t'.stat p with
  | error e =>
    cases hp : t.stat p with
    | error e => rfl
    | ok node => simp [h.stat hp] at hp'
  | ok node =>
    cases hlocate : t'.locate p with
    | error number => simp [FileTree.stat, hlocate] at hp'
    | ok place =>
      have hdescend : t'.descend (t.base p) p.parts = .ok place := by
        rw [← h.base p]
        exact hlocate
      have hplace := locate_straight hdescend hstraight
      rw [stat_of_locate hlocate] at hp'
      rcases h.nodes place with hsame | ⟨-, -, hshort⟩
      · cases hn : t.node? place with
        | none => simp [hsame, hn] at hp'
        | some n =>
          have hbefore : t.locate p = .ok place := ht.descend_of_node? hdescend hstraight hn
          rw [stat_of_locate hbefore, ← hp', hsame]
      · rw [hplace, List.length_append] at hshort
        omega

theorem isDirectory_of_ensureDirectory (h : t.ensureDirectory p = .ok t') (ht : t.Rooted) :
    t'.isDirectory p := by
  obtain ⟨-, hextends⟩ := ht.ensureDirectory h
  rcases ensureDirectory_cases h with ⟨rfl, hdirectory⟩ | ⟨place, hplace, hnone, rfl⟩
  · exact hdirectory
  · refine isDirectory_iff.2 ⟨place, hextends.locate hplace, ?_⟩
    rw [node?_put t (ne_nil_of_node? hnone nofun), if_pos rfl]

/-- Where making a directory and those above it succeeds, there is one. -/
theorem isDirectory_of_ensureDirectories (h : (t.ensureDirectories p).1 = .ok ()) (ht : t.Rooted) :
    (t.ensureDirectories p).2.isDirectory p := by
  unfold ensureDirectories at h ⊢
  generalize p.parts.length = up at h ⊢
  generalize hmade : t.ensureDirectoriesUp p up = made at h ⊢
  cases up with
  | zero =>
    rw [ensureDirectoriesUp] at hmade
    split at hmade
    · rename_i hensure
      subst hmade
      exact isDirectory_of_ensureDirectory hensure ht
    · subst hmade
      cases h
  | succ up =>
    obtain ⟨hrooted, -⟩ := ht.ensureDirectoriesUp up (p := p.parent)
    rw [ensureDirectoriesUp] at hmade
    split at hmade
    · rename_i hensure
      subst hmade
      exact isDirectory_of_ensureDirectory hensure ht
    · split at hmade
      · subst hmade
        cases h
      · split at hmade
        · subst hmade
          cases h
        · rename_i hup
          rw [hup] at hrooted
          split at hmade
          · rename_i hensure
            subst hmade
            exact isDirectory_of_ensureDirectory hensure hrooted
          · subst hmade
            cases h

theorem descend_append (parts rest : List String) :
    t.descend place (parts ++ rest) =
      match t.descend place parts with
      | .error number => .error number
      | .ok q => t.descend q rest := by
  induction parts generalizing place with
  | nil => rfl
  | cons name parts ih =>
    rw [List.cons_append, descend, descend]
    split
    · rfl
    · rfl
    · split
      · rfl
      · exact ih

/-- Right below a directory there is a place for every name that is not too long. -/
theorem locate_child_of_isDirectory (h : t.isDirectory p) (name : String) :
    (∃ here, t.locate (p.child name) = .ok here) ∨ t.locate (p.child name) = .error 36 := by
  obtain ⟨q, hq, hdirectory⟩ := isDirectory_iff.1 h
  have hchild : t.locate (p.child name) = t.descend q [name] := by
    rw [locate] at hq
    rw [locate, Path.child, descend_append, hq]
  rw [hchild, descend, hdirectory]
  dsimp only
  split
  · exact .inr rfl
  · exact .inl ⟨_, rfl⟩

end ChatHost.FileTree
