import ChatHost.Proofs.Act
import ChatHost.Proofs.FileTree.Directories
import ChatHost.Settings.Store

set_option autoImplicit false

/-!
What saving leaves behind: at the path the text of the settings, whatever was there before, and
nothing at the place of the file by way of which it came there.
-/

namespace ChatHost

namespace FileTree

variable {t : FileTree} {p beside : Path} {here there : List String}

def CanHold (t : FileTree) (p : Path) : Prop :=
  ∃ t', t.write p [] = .ok t'

theorem CanHold.located (h : t.CanHold p) :
    ∃ place, t.locate p = .ok place ∧ t.node? place ≠ some .directory := by
  obtain ⟨t', ht'⟩ := h
  exact locate_of_edit ht'

theorem Rooted.name_inj (ht : t.Rooted) {dir : Path} {name name' : String}
    (h : t.locate (dir.child name) = .ok here) (h' : t.locate (dir.child name') = .ok here)
    (hhere : t.node? here ≠ some .directory) : name = name' := by
  obtain ⟨q, hq, hdirectory, -, honward⟩ := locate_child.1 h
  obtain ⟨q', hq', -, -, honward'⟩ := locate_child.1 h'
  cases hq.symm.trans hq'
  have habove := ht.above_dropLast hdirectory
  -- a name that leads up leads to a directory
  have hstraight {n : String} (hn : onward q n = here) : n ≠ ".." := by
    rintro rfl
    rw [onward, if_pos rfl] at hn
    exact hhere (hn ▸ habove)
  rw [onward, if_neg (hstraight honward)] at honward
  rw [onward, if_neg (hstraight honward')] at honward'
  exact (List.singleton_inj.1 (List.append_cancel_left (honward.trans honward'.symm)))

end FileTree

namespace Settings

open FileTree

variable {t : FileTree} {p beside : Path} {here there : List String} {content : Text.Bytes}

/-- Content that is put in its place by way of a file beside it is the only thing that is new. -/
theorem replaceFile_eq (ht : t.Rooted) (hbeside : t.locate beside = .ok here)
    (hhere : t.node? here ≠ some .directory) (hp : t.locate p = .ok there)
    (hthere : t.node? there ≠ some .directory) (content : Text.Bytes) :
    ∃ t' mode, replaceFile beside p content t = (.ok (), t') ∧ t'.Rooted ∧ t.Extends t' ∧
      ∀ q, t'.node? q = if q = there then some (.file content mode)
        else if q = here then none else t.node? q := by
  obtain ⟨mode, hwrite⟩ := edit_eq hbeside hhere fun _ => content
  have hne := ne_nil_of_node? rfl hhere
  obtain ⟨hrooted, hextends⟩ := ht.put (.file content mode) (ht.locate_above hbeside) hne
    fun hd => absurd hd hhere
  have hput := node?_put t hne (.file content mode)
  have hwritten : t.write beside content = .ok (t.put here (.file content mode)) := hwrite
  -- a path that has the suffix already is beside itself, and the move changes nothing
  by_cases hsame : here = there
  · subst hsame
    have hmove : (t.put here (.file content mode)).move beside p =
        .ok (t.put here (.file content mode)) := by
      simp only [FileTree.move, hextends.locate hbeside, hextends.locate hp, hput, if_true]
    refine ⟨_, mode, ?_, hrooted, hextends, fun q => ?_⟩
    · simp only [replaceFile, hwritten, hmove]
    · rw [hput]
      split_ifs <;> rfl
  · have hfile : (t.put here (.file content mode)).node? here = some (.file content mode) := by
      rw [hput, if_pos rfl]
    have hfree : (t.put here (.file content mode)).node? there ≠ some .directory := by
      rw [hput, if_neg (Ne.symm hsame)]
      exact hthere
    obtain ⟨t', hmove, hrooted', hextends', hnode⟩ :=
      hrooted.move (hextends.locate hbeside) (hextends.locate hp) hsame hfile hfree
    refine ⟨t', mode, ?_, hrooted', hextends.trans hextends', fun q => ?_⟩
    · simp only [replaceFile, hwritten, hmove]
    · rw [hnode, hput]
      split_ifs <;> rfl

/-- Whether settings can be saved to a path: the directories above are there or can be made, and
files can then be written at the path and beside it. -/
def Writable (t : FileTree) (p : Path) : Prop :=
  (t.ensureDirectories p.parent).1 = .ok () ∧ (t.ensureDirectories p.parent).2.CanHold p ∧
    ∃ beside, p.withSuffix? ".tmp" = some beside ∧
      (t.ensureDirectories p.parent).2.CanHold beside

/-- Whether a file has some content, and nothing is left of the file by way of which it came. -/
structure Keeps (t : FileTree) (p : Path) (content : Text.Bytes) : Prop where
  present : t.present p = .ok true
  read : t.read p = .ok content
  alone : ∀ beside, p.withSuffix? ".tmp" = some beside → beside ≠ p → t.present beside = .ok false

theorem keeps_of_node? {t' : FileTree} {mode : Nat} (ht : t.Rooted) (hextends : t.Extends t')
    (hsuffix : p.withSuffix? ".tmp" = some beside) (hbeside : t.locate beside = .ok here)
    (hp : t.locate p = .ok there) (hthere : t.node? there ≠ some .directory)
    (hnode : ∀ q, t'.node? q = if q = there then some (.file content mode)
      else if q = here then none else t.node? q) : Keeps t' p content := by
  have hstat : t'.stat p = .ok (.file content mode) := by
    rw [stat_of_locate (hextends.locate hp), hnode, if_pos rfl]
  refine ⟨?_, ?_, fun beside' hsuffix' hother => ?_⟩
  · rw [FileTree.present, hstat]
  · rw [FileTree.read, hstat]
  · cases hsuffix.symm.trans hsuffix'
    obtain ⟨name, hname, rfl⟩ := Option.map_eq_some_iff.1 hsuffix
    have hchild : p.parent.child name = p := by
      rw [Path.child, Path.parent, List.dropLast_append_getLast? name hname]
    have hplaces : here ≠ there := by
      rintro rfl
      refine hother ?_
      rw [← hchild] at hp
      rw [← ht.name_inj hp hbeside hthere]
      exact hchild
    rw [FileTree.present, stat_of_locate (hextends.locate hbeside), hnode, if_neg hplaces,
      if_pos rfl]
    rfl

theorem save_ends {s : Settings} (ht : t.Rooted) (hs : s.toJson.isWritable) (hp : Writable t p) :
    (save p s).Ends t fun result t' =>
      result = .ok p ∧ t'.Rooted ∧ Keeps t' p (Text.utf8 (fileText s)) := by
  obtain ⟨hmade, hhold, beside, hsuffix, hholdBeside⟩ := hp
  obtain ⟨hrooted, -⟩ := ht.ensureDirectories p.parent
  obtain ⟨here, hbeside, hhere⟩ := hholdBeside.located
  obtain ⟨there, hplace, hthere⟩ := hhold.located
  obtain ⟨t', mode, hreplace, hrooted', hextends, hnode⟩ :=
    replaceFile_eq hrooted hbeside hhere hplace hthere (Text.utf8 (fileText s))
  have hkeeps := keeps_of_node? hrooted hextends hsuffix hbeside hplace hthere hnode
  unfold save
  rw [hs, if_neg (by decide)]
  have hdirectories : (Act.ofWorld fun t : FileTree => t.ensureDirectories p.parent).Ends t
      fun result made => result = .ok () ∧ made = (t.ensureDirectories p.parent).2 := ⟨hmade, rfl⟩
  refine hdirectories.bind ?_
  rintro _ _ ⟨rfl, rfl⟩
  dsimp only
  rw [hsuffix]
  have hreplaced : (Act.ofWorld (replaceFile beside p (Text.utf8 (fileText s)))).Ends
      (t.ensureDirectories p.parent).2 fun result left => result = .ok () ∧ left = t' := by
    rw [Act.ends_ofWorld, hreplace]
    exact ⟨rfl, rfl⟩
  refine hreplaced.bind ?_
  rintro _ _ ⟨rfl, rfl⟩
  exact ⟨rfl, hrooted', hkeeps⟩

end Settings
end ChatHost
