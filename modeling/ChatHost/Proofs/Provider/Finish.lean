import ChatHost.Proofs.FileTree.Directories
import ChatHost.Proofs.Provider.Transfer

set_option autoImplicit false

/-!
How a download from any server ends. One that fails leaves what has been collected, and else only
adds directories, unless it fails at the mode of what it has moved to the destination. One that
succeeds has moved what was collected there, whatever its size, and has recorded a size other than
the announced one.
-/

namespace ChatHost

/-- Whether a tree differs from another one in nothing but the file to which a path leads, which has
some content now. -/
structure FileTree.Kept (t : FileTree) (part : Path) (c : Text.Bytes) (t' : FileTree) : Prop where
  start : t'.start = t.start
  modes : t'.modeRefusal? = t.modeRefusal?
  others (q : List String) : t.locate part ≠ .ok q → t'.node? q = t.node? q
  free (q : List String) : t.locate part = .ok q → t'.node? q ≠ some .directory
  held : t'.held part = c

theorem FileTree.Kept.refl {t : FileTree} {part : Path} (h : t.stat part ≠ .ok .directory) :
    t.Kept part (t.held part) t where
  start := rfl
  modes := rfl
  others _ _ := rfl
  free q hq hd := h (by rw [stat_of_locate hq, hd])
  held := rfl

theorem FileTree.Kept.back {t t' : FileTree} {part : Path} {c : Text.Bytes}
    (h : t.Kept part c t') : t'.Extends t := by
  refine ⟨fun q hq => ?_, h.start.symm, h.modes.symm⟩
  rw [← h.others q fun hlocate => h.free q hlocate hq, hq]

/-- Every other path leads to what it led to. -/
theorem FileTree.Kept.stat {t t' : FileTree} {part p : Path} {c : Text.Bytes}
    (h : t.Kept part c t') (hfree : t.stat part ≠ .ok .directory)
    (hp : ∀ q, t.locate part = .ok q → t.locate p ≠ .ok q) :
    (t'.stat p).toOption = (t.stat p).toOption := by
  have hextends : t.Extends t' := by
    refine ⟨fun q hq => ?_, h.start, h.modes⟩
    rw [h.others q fun hlocate => hfree (by rw [stat_of_locate hlocate, hq]), hq]
  have hback := h.back
  cases hlocate : t.locate p with
  | ok q =>
    rw [stat_of_locate hlocate, stat_of_locate (hextends.locate hlocate),
      h.others q fun hpart => hp q hpart hlocate]
  | error number =>
    cases hlocate' : t'.locate p with
    | ok q => simp [hback.locate hlocate'] at hlocate
    | error number' => simp [FileTree.stat, hlocate, hlocate', Except.toOption]

namespace Downloader

variable {σ : Type} {d : Downloader σ} {t t' : FileTree} {part destination : Path}
  {here : List String} {c : Text.Bytes} {notes : List (Http.Exchange σ)}
  {v : Noted (Http.Exchange σ) σ}

/-- The file of a destination and the one in which its bytes are collected are at two places. -/
theorem apart_of_partPath (h : partPath? destination = some part) {q : List String}
    (hq : t.locate part = .ok q) : t.locate destination ≠ .ok q := by
  obtain ⟨name, hname, rfl⟩ := parts_of_partPath h
  obtain ⟨p, hp, -, -, rfl⟩ := FileTree.locate_child.1 hq
  intro hq'
  rw [hname] at hq'
  obtain ⟨p', hp', -, -, hsame⟩ := FileTree.locate_child.1 hq'
  cases hp.symm.trans hp'
  exact (onward_part p name).2 hsame.symm

theorem Holds.kept (h : Holds t part here c t') (hpart : t.locate part = .ok here) :
    t.Kept part c t' where
  start := h.start
  modes := h.modes
  others q hq := h.others q fun hsame => hq (hsame ▸ hpart)
  free q hq := by
    cases hpart.symm.trans hq
    exact h.free
  held := by rw [FileTree.held_of_locate h.located, h.content]

/-- The record of a download whose size is not the announced one. -/
def mismatchRecord (size expected : Nat) : LogRecord :=
  ⟨.warning, logger, s!"Downloaded size {size} does not match expected size {expected}"⟩

def unfinished (destination : Path) (e : OsError) : Failure ProviderError :=
  .known ⟨.download, s!"Unable to finalize {destination.text}: {e.message}"⟩

/-- Whether a download has moved what was collected to its destination and has failed then, since
the mode of what is there cannot be changed. -/
structure Unmarked (t : FileTree) (part destination : Path) (c : Text.Bytes)
    (e : Failure ProviderError) (t' : FileTree) : Prop where
  refused : ∃ there number, t.locate destination = .ok there ∧ t.modeRefusal? there = some number ∧
    e = unfinished destination (FileTree.failure number destination)
  moved : ∃ mode, t'.stat destination = .ok (.file c mode)
  gone (node : FileTree.Node) : t'.stat part ≠ .ok node
  others (q : List String) : t.locate part ≠ .ok q → t.locate destination ≠ .ok q →
    t'.node? q = t.node? q

/-- An installation fails and changes nothing, or it moves what is collected to the destination;
then it can only fail at the mode. -/
theorem install_cases (h : Holds t part here c t') (hlocate : t.locate part = .ok here)
    (hpart : partPath? destination = some part) :
    (∃ e, install part destination t' = (.error e, t')) ∨
      (∃ u, install part destination t' = (.ok (), u) ∧ Installed c destination part u) ∨
      ∃ e u, install part destination t' = (.error e, u) ∧
        Unmarked t part destination c (unfinished destination e) u := by
  have hfailed {e : OsError} (hmove : t'.move part destination = .error e) :
      ∃ e, install part destination t' = (.error e, t') := ⟨e, by rw [install, hmove]⟩
  cases hthere : t'.locate destination with
  | error number =>
    refine .inl (hfailed (e := FileTree.moveFailure number part destination) ?_)
    simp only [FileTree.move, h.located, hthere]
  | ok there =>
    have hapart : here ≠ there := by
      rintro rfl
      exact apart_of_partPath hpart h.located hthere
    cases hhere : t'.node? here with
    | none =>
      refine .inl (hfailed (e := FileTree.moveFailure 2 part destination) ?_)
      simp only [FileTree.move, h.located, hthere, hhere]
    | some node =>
      cases node with
      | directory => exact absurd hhere h.free
      | file content mode =>
        obtain rfl : content = c := by rw [← h.content, FileTree.contentAt, hhere]
        by_cases hd : t'.node? there = some .directory
        · exact .inl (hfailed (FileTree.move_onto_directory h.located hthere hhere hd))
        · obtain ⟨result, mode', u, hinstall, -, hextends, hnode, hresult⟩ :=
            install_file h.rooted h.located hthere hapart hhere hd
          have hpart' := hextends.locate h.located
          have hthere' := hextends.locate hthere
          have hmoved : u.node? there = some (.file content mode') := by rw [hnode, if_pos rfl]
          have hgone : u.node? here = none := by rw [hnode, if_neg hapart, if_pos rfl]
          rcases hresult with ⟨rfl, rfl⟩ | ⟨number, hnumber, rfl⟩
          · exact .inr (.inl ⟨u, hinstall, installed_of_node? hpart' hthere' hmoved hgone⟩)
          · have hback := (h.kept hlocate).back.locate hthere
            refine .inr (.inr ⟨_, u, hinstall, ⟨there, number, hback, h.modes ▸ hnumber, rfl⟩,
              ⟨mode', ?_⟩, fun node hnode' => ?_, fun q hq hq' => ?_⟩)
            · rw [FileTree.stat_of_locate hthere', hmoved]
            · rw [FileTree.stat_of_locate hpart', hgone] at hnode'
              cases hnode'
            · have hhere' : q ≠ here := fun hsame => hq (hsame ▸ hlocate)
              have hthere'' : q ≠ there := fun hsame => hq' (hsame ▸ hback)
              rw [hnode, if_neg hthere'', if_neg hhere', h.others q hhere']

/-- How the last step of a download ends: it fails and changes nothing, or what was collected is at
the destination and only its mode may have made it fail. -/
def Settles (d : Downloader σ) (t : FileTree) (part destination : Path) (here : List String)
    (c : Text.Bytes) (notes : List (Http.Exchange σ)) (result : Except (Failure ProviderError) Path)
    (v : Noted (Http.Exchange σ) σ) : Prop :=
  (∃ e, result = .error e) ∧ Stage d t part here c notes v ∨
    v.notes = notes ∧
      (result = .ok destination ∧ Installed c destination part (d.files.get v.world) ∨
        ∃ e, result = .error e ∧ Unmarked t part destination c e (d.files.get v.world))

theorem installed_settles (ha : d.Apart) (h : Stage d t part here c notes v)
    (hlocate : t.locate part = .ok here) (hpart : partPath? destination = some part)
    {k : Except OsError Unit →
      Act (Noted (Http.Exchange σ) σ) (Except (Failure ProviderError) Path)}
    (herror : ∀ e v, (k (.error e)).Ends v fun result u =>
      u = v ∧ result = .error (unfinished destination e))
    (hok : ∀ v, (k (.ok ())).Ends v fun result u => u = v ∧ result = .ok destination) :
    (d.noted.files.within (.ofWorld (install part destination)) >>= k).Ends v
      (Settles d t part destination here c notes) := by
  have hget (u : FileTree) : d.files.get (d.files.set u v.world) = u := ha.get_set u v.world
  have hinstall : (d.noted.files.within (.ofWorld (install part destination))).Ends v fun r u =>
      r = (install part destination (d.files.get v.world)).1 ∧ u.notes = notes ∧
        d.files.get u.world = (install part destination (d.files.get v.world)).2 :=
    ⟨rfl, h.notes, hget _⟩
  refine Act.Ends.bind hinstall ?_
  rintro r u ⟨hr, hnotes, hfiles⟩
  rcases install_cases h.holds hlocate hpart with ⟨e, hcase⟩ | ⟨t'', hcase, hinstalled⟩ |
      ⟨e, t'', hcase, hunmarked⟩
  · rw [hcase] at hr hfiles
    subst hr
    refine (herror e u).imp ?_
    rintro result x ⟨rfl, hfailed⟩
    exact .inl ⟨⟨_, hfailed⟩, h.of_preserved hfiles (hnotes.trans h.notes.symm)⟩
  · rw [hcase] at hr hfiles
    subst hr
    refine (hok u).imp ?_
    rintro result x ⟨rfl, rfl⟩
    exact .inr ⟨hnotes, .inl ⟨rfl, hfiles ▸ hinstalled⟩⟩
  · rw [hcase] at hr hfiles
    subst hr
    refine (herror e u).imp ?_
    rintro result x ⟨rfl, hfailed⟩
    exact .inr ⟨hnotes, .inr ⟨_, hfailed, hfiles ▸ hunmarked⟩⟩

theorem finalize_settles (ha : d.Apart) (total : Option Nat) (h : Stage d t part here c notes v)
    (hlocate : t.locate part = .ok here) (hpart : partPath? destination = some part) :
    (d.noted.finalize part destination total).EndsWith v fun result u records =>
      Settles d t part destination here c notes result u ∧
        ∀ size, total = some size → (∃ e, result = .error e) ∨ c.length = size ∨
          mismatchRecord c.length size ∈ records := by
  refine Act.Ends.bindWith (p := fun r u => r = (d.files.get v.world).stat part ∧ u = v)
    (fun _ _ _ _ hq => ?_) ⟨rfl, rfl⟩ ?_
  · exact ⟨hq.1, fun size hsize => (hq.2 size hsize).imp_right fun hlength =>
      hlength.imp_right (List.mem_append_right _)⟩
  rintro r u ⟨hr, rfl⟩
  cases r with
  | error e => exact ⟨.inl ⟨⟨_, rfl⟩, h⟩, fun _ _ => .inl ⟨_, rfl⟩⟩
  | ok node =>
    obtain ⟨mode, -, rfl⟩ := FileTree.file_of_stat h.holds.located h.holds.free hr.symm
    rw [h.holds.content]
    dsimp only
    split
    · split
      · refine (Act.endsWith_log ..).2 ⟨installed_settles ha h hlocate hpart
          (fun _ _ => ⟨rfl, rfl⟩) fun _ => ⟨rfl, rfl⟩, fun size hsize => ?_⟩
        cases hsize
        exact .inr (.inr (List.mem_cons_self ..))
      · rename_i heq
        refine ⟨installed_settles ha h hlocate hpart (fun _ _ => ⟨rfl, rfl⟩)
          fun _ => ⟨rfl, rfl⟩, fun size hsize => ?_⟩
        cases hsize
        exact .inr (.inl (not_not.1 heq))
    · exact ⟨installed_settles ha h hlocate hpart (fun _ _ => ⟨rfl, rfl⟩) fun _ => ⟨rfl, rfl⟩,
        nofun⟩

/-- How a download to a destination ends, and what has been asked for by then. -/
inductive Finish (d : Downloader σ) (t : FileTree) (part destination : Path) :
    Except (Failure ProviderError) Path → Noted (Http.Exchange σ) σ → List LogRecord → Prop
  | failed {e : Failure ProviderError} {v : Noted (Http.Exchange σ) σ} {records : List LogRecord}
      {heads gets : List (Http.Exchange σ)} (hasks : Asks d part (t.held part) heads gets)
      (hnotes : v.notes = heads ++ gets)
      (hkept : t.Kept part (gathered d.chunkSize (t.held part) heads gets) (d.files.get v.world)) :
      Finish d t part destination (.error e) v records
  | unmarked {e : Failure ProviderError} {v : Noted (Http.Exchange σ) σ} {records : List LogRecord}
      {heads gets : List (Http.Exchange σ)} (hasks : Asks d part (t.held part) heads gets)
      (hnotes : v.notes = heads ++ gets)
      (hunmarked : Unmarked t part destination (gathered d.chunkSize (t.held part) heads gets) e
        (d.files.get v.world)) :
      Finish d t part destination (.error e) v records
  | saved {v : Noted (Http.Exchange σ) σ} {records : List LogRecord}
      {heads gets : List (Http.Exchange σ)} (hasks : Asks d part (t.held part) heads gets)
      (hnotes : v.notes = heads ++ gets)
      (hinstalled : Installed (gathered d.chunkSize (t.held part) heads gets) destination part
        (d.files.get v.world))
      (hwhole : ∀ r, Http.concluded? gets = some r → r.status = 416 ∨ r.body.cut = none)
      (hsize : ∀ size, announced (Http.concluded? heads) = some size →
        (gathered d.chunkSize (t.held part) heads gets).length = size ∨
          mismatchRecord (gathered d.chunkSize (t.held part) heads gets).length size ∈ records) :
      Finish d t part destination (.ok destination) v records

theorem Finish.prepend {result : Except (Failure ProviderError) Path} {records : List LogRecord}
    (h : Finish d t part destination result v records) (before : List LogRecord) :
    Finish d t part destination result v (before ++ records) := by
  cases h with
  | failed hasks hnotes hkept => exact .failed hasks hnotes hkept
  | unmarked hasks hnotes hunmarked => exact .unmarked hasks hnotes hunmarked
  | saved hasks hnotes hinstalled hwhole hsize =>
    exact .saved hasks hnotes hinstalled hwhole fun size hannounced =>
      (hsize size hannounced).imp_right (List.mem_append_right _)

/-- A download that has asked for nothing. -/
theorem Finish.unasked (hfree : t.stat part ≠ .ok .directory) {e : Failure ProviderError}
    (hfiles : d.files.get v.world = t) (hnotes : v.notes = []) (records : List LogRecord) :
    Finish d t part destination (.error e) v records := by
  have hasks : Asks d part (t.held part) [] [] := asks_size (List.forall_mem_nil _)
  refine .failed hasks hnotes ?_
  rw [hfiles]
  exact .refl hfree

theorem collected_unlocated {w : σ} (h : (d.files.get w).locate part = .error 36) :
    (d.collected part).Ends w fun result v => v = w ∧ ∃ e, result = .error e := by
  refine Act.Ends.bind (p := fun r v => r = (d.files.get w).stat part ∧ v = w) ⟨rfl, rfl⟩ ?_
  rintro _ v ⟨rfl, rfl⟩
  have hstat : (d.files.get v).stat part = .error (FileTree.failure 36 part) := by
    simp only [FileTree.stat, h]
  rw [hstat]
  exact ⟨rfl, _, rfl⟩

/-- Where the name of the file for the bytes is too long, a download fails before its transfer. -/
theorem collect_unlocated (ha : d.Apart) (url : String) (hlocate : t.locate part = .error 36)
    (hfiles : d.files.get v.world = t) (hnotes : v.notes = []) :
    (d.noted.collect url part destination).Ends v fun result u => ∃ heads,
      (∃ e, result = .error e) ∧ Asks d part (t.held part) heads [] ∧ u.notes = heads ∧
        d.files.get u.world = t := by
  refine Act.Ends.andThen (probe_noted ha url v) ?_ ?_
  · rintro total u ⟨heads, hheads, hnotes', hfiles', -⟩
    rw [hfiles] at hfiles'
    have hcollected : (d.noted.collected part).Ends u fun result x =>
        x = u ∧ ∃ e, result = .error e := collected_unlocated (hfiles' ▸ hlocate)
    refine Act.Ends.andThen hcollected ?_ ?_
    · rintro _ _ ⟨-, e, he⟩
      cases he
    · rintro e _ ⟨rfl, -⟩
      exact ⟨heads, ⟨_, rfl⟩, asks_size hheads, by rw [hnotes', hnotes, List.nil_append], hfiles'⟩
  · rintro e u ⟨heads, hheads, hnotes', hfiles', -⟩
    exact ⟨heads, ⟨_, rfl⟩, asks_size hheads, by rw [hnotes', hnotes, List.nil_append],
      hfiles'.trans hfiles⟩

theorem collect_finish (ha : d.Apart) (url : String) (hpart : partPath? destination = some part)
    (ht : t.Rooted) (hdirectory : t.isDirectory destination.parent)
    (hfree : t.stat part ≠ .ok .directory) (hfiles : d.files.get v.world = t)
    (hnotes : v.notes = []) :
    ((d.noted.collect url part destination).andThen fun total =>
      d.noted.finalize part destination total).EndsWith v (Finish d t part destination) := by
  obtain ⟨name, -, hname⟩ := parts_of_partPath hpart
  have hlocated := FileTree.locate_child_of_isDirectory hdirectory (name ++ ".part")
  rw [← hname] at hlocated
  rcases hlocated with ⟨here, hhere⟩ | hlong
  · have hheld := FileTree.held_of_locate hhere
    have hstage : Stage d t part here (t.held part) [] v := by
      refine ⟨?_, hnotes⟩
      rw [hfiles]
      exact ⟨ht, rfl, rfl, hhere, fun hd => hfree (by rw [FileTree.stat_of_locate hhere, hd]),
        hheld.symm, fun _ _ => rfl⟩
    refine Act.Ends.andThenWith (fun _ _ before _ h => h.prepend before)
      (collect_stage ha url hstage) ?_ ?_
    · rintro total u ⟨heads, gets, hasks, hu, hend⟩
      obtain ⟨rfl, hwhole⟩ := hend total rfl
      have hsettles := finalize_settles ha (announced (Http.concluded? heads)) hu hhere hpart
      rw [Act.EndsWith] at hsettles ⊢
      rcases hsettles with
        ⟨⟨⟨e, he⟩, hx⟩ | ⟨hnotes, ⟨hok, hinstalled⟩ | ⟨e, he, hunmarked⟩⟩, hsize⟩
      · rw [he]
        exact .failed hasks hx.notes (hx.holds.kept hhere)
      · rw [hok]
        refine .saved hasks hnotes hinstalled hwhole fun size hannounced => ?_
        refine (hsize size hannounced).resolve_left ?_
        rintro ⟨e, he⟩
        cases hok.symm.trans he
      · rw [he]
        exact .unmarked hasks hnotes hunmarked
    · rintro e u ⟨heads, gets, hasks, hu, -⟩
      exact .failed hasks hu.notes (hu.holds.kept hhere)
  · refine Act.Ends.andThenWith (fun _ _ before _ h => h.prepend before)
      (collect_unlocated ha url hlong hfiles hnotes) ?_ ?_
    · rintro total u ⟨heads, ⟨e, he⟩, -⟩
      cases he
    · rintro e u ⟨heads, -, hasks, hnotes, hfiles⟩
      have hheld : t.held part = [] := by
        simp [FileTree.held, FileTree.stat, hlong, Except.toOption]
      have hnothing : gathered d.chunkSize (t.held part) heads [] = t.held part := by
        rw [hheld, gathered]
        cases announced (Http.concluded? heads) <;> rfl
      refine .failed hasks (by rw [hnotes, List.append_nil]) ?_
      rw [hnothing, hfiles]
      exact .refl hfree

theorem noted_download_finish (ha : d.Apart) (url : String)
    (hpart : partPath? destination = some part) {w : σ} (ht : (d.files.get w).Rooted)
    (hfree : ((d.files.get w).ensureDirectories destination.parent).2.stat part ≠ .ok .directory) :
    (d.noted.download url destination).EndsWith ⟨w, []⟩
      (Finish d ((d.files.get w).ensureDirectories destination.parent).2 part destination) := by
  have hensure : (d.noted.files.ensureDirectories destination.parent).Ends ⟨w, []⟩ fun r v =>
      r = ((d.files.get w).ensureDirectories destination.parent).1 ∧ v.notes = [] ∧
        d.files.get v.world = ((d.files.get w).ensureDirectories destination.parent).2 :=
    ⟨rfl, rfl, ha.get_set _ w⟩
  obtain ⟨hrooted, -⟩ := ht.ensureDirectories destination.parent
  have hdirectory (hok : ((d.files.get w).ensureDirectories destination.parent).1 = .ok ()) :=
    FileTree.isDirectory_of_ensureDirectories hok ht
  generalize (d.files.get w).ensureDirectories destination.parent = made at *
  refine Act.Ends.bindWith (fun _ _ before _ h => h.prepend before) hensure ?_
  rintro r v ⟨hr, hnotes, hfiles⟩
  cases r with
  | error e => exact .unasked hfree hfiles hnotes _
  | ok =>
    dsimp only
    rw [hpart]
    exact collect_finish ha url hpart hrooted (hdirectory hr.symm) hfree hfiles hnotes

theorem download_finish (ha : d.Apart) (url : String) (hpart : partPath? destination = some part)
    {w : σ} (ht : (d.files.get w).Rooted)
    (hfree : ((d.files.get w).ensureDirectories destination.parent).2.stat part ≠ .ok .directory) :
    (d.download url destination).EndsWith w fun result v records =>
      Finish d ((d.files.get w).ensureDirectories destination.parent).2 part destination result
        ⟨v, d.exchanges url destination w⟩ records := by
  have hfinish := noted_download_finish ha url hpart ht hfree
  rwa [Act.EndsWith, run_noted_download] at hfinish

def received (size : Nat) (exchanges : List (Http.Exchange σ)) : Text.Bytes :=
  match Http.answered? .get exchanges with
  | none => []
  | some r => if r.isError then [] else (r.body.pieces size).flatten

/-- Why what was there is not kept: it is more than the announced size, or a response that is no
error answers the request to go on from it with something else. -/
inductive Dropped (old : Text.Bytes) (exchanges : List (Http.Exchange σ)) : Prop
  | overlong (size : Nat) (hsize : announced (Http.answered? .head exchanges) = some size)
      (hlt : size < old.length)
  | ignored (r : Http.Response) (hr : Http.answered? .get exchanges = some r)
      (herror : r.isError = false) (hstatus : r.status ≠ 206) (x : Http.Exchange σ)
      (hx : x ∈ exchanges) (hranged : x.request.offset ≠ none)

section Asks

variable {old : Text.Bytes} {heads gets : List (Http.Exchange σ)}

theorem Asks.answered_head (h : Asks d part old heads gets) :
    Http.answered? .head (heads ++ gets) = Http.concluded? heads :=
  Http.answered?_append_left (fun x hx => (h.size x hx).1) fun x hx => by
    rw [(h.transfer x hx).1]
    simp

theorem Asks.answered_get (h : Asks d part old heads gets) :
    Http.answered? .get (heads ++ gets) = Http.concluded? gets :=
  Http.answered?_append_right (fun x hx => by rw [(h.size x hx).1]; simp)
    fun x hx => (h.transfer x hx).1

/-- Every request of a transfer asks for what is behind the bytes that are collected when it is
sent, and no other request asks for a part. -/
theorem Asks.offset (h : Asks d part old heads gets) {x : Http.Exchange σ}
    (hx : x ∈ heads ++ gets) : x.request.offset =
      if x.request.method = .get then resumed ((d.files.get x.before).held part) else none := by
  rcases List.mem_append.1 hx with hx | hx
  · obtain ⟨hmethod, hoffset⟩ := h.size x hx
    rw [hmethod, hoffset]
    rfl
  · obtain ⟨hmethod, hoffset, hheld⟩ := h.transfer x hx
    rw [hmethod, hoffset, hheld, if_pos rfl]

theorem settled_overlong {size : Nat} (h : size < old.length) : settled (some size) old = [] :=
  if_neg (Nat.not_le.2 h)

theorem settled_of_not {total : Option Nat}
    (h : ¬ ∃ size, total = some size ∧ size < old.length) : settled total old = old := by
  cases total with
  | none => rfl
  | some size => exact if_pos (Nat.not_lt.1 fun hlt => h ⟨size, rfl, hlt⟩)

/-- What is collected in the end: what was there and what has been received, or only the latter when
there is a reason for it. -/
theorem Asks.gathered_cases (h : Asks d part old heads gets) (size : Nat) :
    gathered size old heads gets = old ++ received size (heads ++ gets) ∨
      gathered size old heads gets = received size (heads ++ gets) ∧
        Dropped old (heads ++ gets) := by
  rw [gathered, received, h.answered_get]
  by_cases hover : ∃ size, announced (Http.concluded? heads) = some size ∧ size < old.length
  · obtain ⟨total, htotal, hlt⟩ := hover
    rw [htotal, settled_overlong hlt]
    refine .inr ⟨?_, .overlong total (by rw [h.answered_head, htotal]) hlt⟩
    cases Http.concluded? gets <;> simp [delivered]
  · have htransfer := h.transfer
    rw [settled_of_not hover] at htransfer ⊢
    cases hr : Http.concluded? gets with
    | none => exact .inl (List.append_nil old).symm
    | some r =>
      by_cases herror : r.isError
      · exact .inl (by simp [delivered, herror])
      · by_cases hrestart : startsOver old.length r
        · obtain ⟨x, hx⟩ := List.exists_mem_of_ne_nil gets (Http.ne_nil_of_concluded? hr)
          simp only [startsOver, ne_eq, Bool.and_eq_true, decide_eq_true_eq] at hrestart
          have hranged : x.request.offset ≠ none := by
            rw [(htransfer x hx).2.1, resumed, if_neg hrestart.1]
            simp
          refine .inr ⟨?_, .ignored r (by rw [h.answered_get, hr]) (by simpa using herror)
            hrestart.2 x (List.mem_append_right _ hx) hranged⟩
          simp [delivered, herror, startsOver, hrestart]
        · exact .inl (by simp [delivered, herror, hrestart])

end Asks

/-- Making the directories of a destination does not change what is at the ends of paths that never
go back up. -/
theorem stat_made_straight (hpart : partPath? destination = some part) (ht : t.Rooted)
    (hstraight : ".." ∉ destination.parts) :
    ((t.ensureDirectories destination.parent).2.stat destination).toOption =
        (t.stat destination).toOption ∧
      ((t.ensureDirectories destination.parent).2.stat part).toOption =
        (t.stat part).toOption := by
  obtain ⟨name, hname, rfl⟩ := parts_of_partPath hpart
  have hadds := FileTree.ensureDirectories_adds t destination.parent
  have hparts : destination.parts = destination.parent.parts ++ [name] :=
    congrArg Path.parts hname
  have hdepth (q : String) : (t.base destination.parent).length + destination.parent.parts.length <
      (t.base (destination.parent.child q)).length +
        (destination.parent.child q).parts.length := by
    have hbase : t.base (destination.parent.child q) = t.base destination.parent := rfl
    rw [hbase, Path.child, List.length_append]
    exact Nat.add_lt_add_left (Nat.lt_succ_self _) _
  have habove : ".." ∉ destination.parent.parts := fun hmem =>
    hstraight (hparts ▸ List.mem_append_left _ hmem)
  have hlong : ".." ≠ name ++ ".part" := by
    intro h
    have hlength := congrArg String.length h
    rw [String.length_append] at hlength
    exact absurd hlength (Nat.ne_of_lt (Nat.lt_of_lt_of_le (by decide) (Nat.le_add_left 5 _)))
  constructor
  · refine hadds.stat_straight ht hstraight ?_
    have hname' := hdepth name
    rwa [← hname] at hname'
  · refine hadds.stat_straight ht ?_ (hdepth _)
    simp [Path.child, habove, hlong]

/-- Whether a download has changed nothing but what is collected, and has at most added the
directories of the destination. What was at the destination is there as it was, and a path that does
not go back up leads to nothing where it led to nothing. -/
structure Spared (t : FileTree) (part destination : Path) (c : Text.Bytes) (t' : FileTree) :
    Prop where
  nodes (q : List String) : (t.ensureDirectories destination.parent).2.locate part ≠ .ok q →
    t'.node? q = t.node? q ∨ t.node? q = none ∧ t'.node? q = some .directory
  former (node : FileTree.Node) : t.stat destination = .ok node →
    t'.stat destination = .ok node
  straight : ".." ∉ destination.parts →
    (t'.stat destination).toOption = (t.stat destination).toOption ∧
      ((t.ensureDirectories destination.parent).2.stat part).toOption = (t.stat part).toOption
  held : t'.held part = c

/-- A download that fails has spared all but what is collected, unless it had already moved this to
the destination and could not change its mode there. What had been collected when the directories
were there is followed by what has been received, unless there was a reason to start over. -/
theorem download_failed_keeps (ha : d.Apart) (url : String)
    (hpart : partPath? destination = some part) {w : σ} (ht : (d.files.get w).Rooted)
    (hfree : ((d.files.get w).ensureDirectories destination.parent).2.stat part ≠ .ok .directory) :
    let t := d.files.get w
    let made := (t.ensureDirectories destination.parent).2
    let asked := d.exchanges url destination w
    (∀ x ∈ asked, x.request.offset =
      if x.request.method = .get then resumed ((d.files.get x.before).held part) else none) ∧
    (d.download url destination).Ends w fun result v => ∀ e, result = .error e → ∃ c,
      (c = made.held part ++ received d.chunkSize asked ∨
        c = received d.chunkSize asked ∧ Dropped (made.held part) asked) ∧
      (Spared t part destination c (d.files.get v) ∨
        Unmarked made part destination c e (d.files.get v)) := by
  intro t made asked
  have hfinish := download_finish ha url hpart ht hfree
  rw [Act.EndsWith] at hfinish
  rw [Act.Ends]
  change Finish d made part destination _ ⟨_, asked⟩ _ at hfinish
  generalize (d.download url destination).run w = out at hfinish ⊢
  obtain ⟨result, v, records⟩ := out
  have hadds := FileTree.ensureDirectories_adds t destination.parent
  cases hfinish with
  | saved hasks hnotes => exact ⟨fun x hx => hasks.offset (hnotes ▸ hx), nofun⟩
  | unmarked hasks hnotes hunmarked =>
    have hcases := hasks.gathered_cases d.chunkSize
    rw [← hnotes] at hcases
    refine ⟨fun x hx => hasks.offset (hnotes ▸ hx), fun e he => ?_⟩
    cases he
    exact ⟨_, hcases, .inr hunmarked⟩
  | failed hasks hnotes hkept =>
    have hsame := hkept.stat hfree fun q => apart_of_partPath hpart
    have hcases := hasks.gathered_cases d.chunkSize
    rw [← hnotes] at hcases
    refine ⟨fun x hx => hasks.offset (hnotes ▸ hx), fun e _ => ⟨_, hcases, .inl ⟨fun q hq => ?_,
      fun node hn => ?_, fun hstraight => ?_, hkept.held⟩⟩⟩
    · rw [hkept.others q hq]
      exact (hadds.nodes q).imp_right fun hnew => ⟨hnew.1, hnew.2.1⟩
    · rw [hadds.stat hn] at hsame
      cases hstat : (d.files.get v).stat destination with
      | error e => simp [hstat, Except.toOption] at hsame
      | ok node' => simpa [hstat, Except.toOption] using hsame
    · obtain ⟨hdestination, hpart'⟩ := stat_made_straight hpart ht hstraight
      exact ⟨hsame.trans hdestination, hpart'⟩

/-- A client that gives one response to every request for a size, and one to every other. -/
def answering (size bytes : Http.Response) : Http.Client σ where
  rules := .standard
  send r := pure (.ok (if r.method = .head then size else bytes))

/-- A downloader with such a client, into a world of nothing but files. -/
def fromAnswers (chunkSize : Nat) (size bytes : Http.Response) : Downloader (FileTree × Unit) where
  files := ⟨Prod.fst, fun t w => (t, w.2)⟩
  client := answering size bytes
  chunkSize := chunkSize

theorem apart_fromAnswers (chunkSize : Nat) (size bytes : Http.Response) :
    (fromAnswers chunkSize size bytes).Apart :=
  ⟨fun _ _ => rfl, fun _ _ => rfl, fun _ _ _ => rfl⟩

def announcing (size : String) : Http.Response :=
  { headers := [("content-length", size)] }

/-- A tree with a file and one in which bytes for it are collected. -/
def besideFile (content collected : Text.Bytes) : FileTree :=
  { nodes := [(["m"], .file content 0o755), (["m.part"], .file collected 0o644)] }

theorem rooted_besideFile (content collected : Text.Bytes) :
    (besideFile content collected).Rooted := by
  have hroot (t : FileTree) (name : String) :
      t.node? ([name] : List String).dropLast = some .directory := FileTree.node?_nil t
  have hone := (FileTree.rooted_empty.put (.file content 0o755) (hroot _ "m") nofun nofun).1
  exact (hone.put (.file collected 0o644) (hroot _ "m.part") nofun nofun).1

theorem download_failed_keeps_resumed :
    let d := fromAnswers 2 (announcing "4") { status := 206, body := {
      bytes := [2, 3, 4], cut := some ⟨.transport, "connection lost"⟩ } }
    let out := (d.download "https://localhost/m" ⟨.absolute, ["m"]⟩).run (besideFile [7] [1], ())
    out.result.toOption = none ∧
      (d.files.get out.world).stat ⟨.absolute, ["m"]⟩ = .ok (.file [7] 0o755) ∧
      (d.files.get out.world).held ⟨.absolute, ["m.part"]⟩ = [1, 2, 3] := by
  intro d out
  have hpart : partPath? ⟨.absolute, ["m"]⟩ = some ⟨.absolute, ["m.part"]⟩ := rfl
  have hfree : ((besideFile [7] [1]).ensureDirectories ⟨.absolute, []⟩).2.stat
      ⟨.absolute, ["m.part"]⟩ ≠ .ok .directory := by
    decide +kernel
  obtain ⟨-, hkept⟩ := download_failed_keeps (d := d) (w := (besideFile [7] [1], ()))
    (apart_fromAnswers ..) "https://localhost/m" hpart (rooted_besideFile [7] [1]) hfree
  generalize hasked : d.exchanges _ _ _ = asked at hkept
  have hreceived : received 2 asked = [2, 3] := by
    rw [← hasked]
    decide +kernel
  have hsize : announced (Http.answered? .head asked) = some 4 := by
    rw [← hasked]
    decide +kernel
  have hstatus : (Http.answered? .get asked).map Http.Response.status = some 206 := by
    rw [← hasked]
    decide +kernel
  have hfailed : out.result.toOption = none := by decide +kernel
  obtain ⟨e, hresult⟩ : ∃ e, out.result = .error e := by
    cases hresult : out.result with
    | ok p => simp [hresult, Except.toOption] at hfailed
    | error e => exact ⟨e, rfl⟩
  obtain ⟨c, hcollected, hspared | ⟨⟨there, number, -, hrefused, -⟩, -⟩⟩ := hkept e hresult
  swap
  · cases hrefused
  refine ⟨hfailed, hspared.former _ rfl, ?_⟩
  rcases hcollected with hbehind | ⟨-, hdropped⟩
  · exact hspared.held.trans (hbehind.trans (congrArg ([1] ++ ·) hreceived))
  · cases hdropped with
    | overlong size hsize' hlt =>
      cases hsize.symm.trans hsize'
      exact absurd hlt (by decide)
    | ignored r hr _ hne =>
      rw [hr] at hstatus
      exact absurd (Option.some.inj hstatus) hne

/-- A download that may not change the mode of what it has brought to its destination. -/
example :
    let t : FileTree := { besideFile [7] [1] with modeRefusal? := fun _ => some 1 }
    let d := fromAnswers 2 (announcing "2") { status := 206, body := { bytes := [2] } }
    let out := (d.download "https://localhost/m" ⟨.absolute, ["m"]⟩).run (t, ())
    out.result.toOption = none ∧
      ((d.files.get out.world).stat ⟨.absolute, ["m"]⟩).toOption = some (.file [1, 2] 0o644) ∧
      ((d.files.get out.world).stat ⟨.absolute, ["m.part"]⟩).toOption = none := by
  decide +kernel

/-- Where the way to a destination goes through a directory that is missing and back up, making that
directory makes one at the destination; a download that fails leaves it there. -/
theorem directory_at_destination_of_failed :
    let d := fromAnswers 1 (announcing "3") { status := 404 }
    let destination : Path := ⟨.absolute, ["x", "..", "x"]⟩
    let out := (d.download "https://localhost/m" destination).run ({}, ())
    (out.result matches .error (.known ⟨.download, _⟩)) ∧
      (({} : FileTree).stat destination).toOption = none ∧
      (out.world.1.stat destination).toOption = some .directory := by
  decide +kernel

/-- A download that succeeds has moved what it has collected to the destination. When that is not
of the announced size it has recorded this. -/
theorem download_saved_sized (ha : d.Apart) (url : String)
    (hpart : partPath? destination = some part) {w : σ} (ht : (d.files.get w).Rooted)
    (hfree : ((d.files.get w).ensureDirectories destination.parent).2.stat part ≠ .ok .directory) :
    let old := ((d.files.get w).ensureDirectories destination.parent).2.held part
    let asked := d.exchanges url destination w
    (d.download url destination).EndsWith w fun result v records =>
      ∀ p, result = .ok p → p = destination ∧
        ∃ c, Installed c destination part (d.files.get v) ∧
          (c = old ++ received d.chunkSize asked ∨
            c = received d.chunkSize asked ∧ Dropped old asked) ∧
          (∀ r, Http.answered? .get asked = some r → r.status = 416 ∨ r.body.cut = none) ∧
          ∀ size, announced (Http.answered? .head asked) = some size →
            c.length = size ∨ mismatchRecord c.length size ∈ records := by
  intro old asked
  have hfinish := download_finish ha url hpart ht hfree
  rw [Act.EndsWith] at hfinish ⊢
  change Finish d _ part destination _ ⟨_, asked⟩ _ at hfinish
  generalize (d.download url destination).run w = out at hfinish ⊢
  obtain ⟨result, v, records⟩ := out
  cases hfinish with
  | failed => exact nofun
  | unmarked => exact nofun
  | saved hasks hnotes hinstalled hwhole hsize =>
    rintro p hp
    cases hp
    dsimp only at hnotes ⊢
    rw [hnotes]
    refine ⟨rfl, _, hinstalled, hasks.gathered_cases d.chunkSize, fun r hr => ?_,
      fun size hannounced => ?_⟩
    · rw [hasks.answered_get] at hr
      exact hwhole r hr
    · rw [hasks.answered_head] at hannounced
      exact hsize size hannounced

/-- The word that nothing is left, before all that has been announced is there. -/
theorem download_saved_sized_short :
    let d := fromAnswers 2 (announcing "5") { status := 416 }
    let out := (d.download "https://localhost/m" ⟨.absolute, ["m"]⟩).run
      (besideFile [7] [1, 2, 3], ())
    out.result.toOption = some ⟨.absolute, ["m"]⟩ ∧
      (∃ mode, (d.files.get out.world).stat ⟨.absolute, ["m"]⟩ = .ok (.file [1, 2, 3] mode)) ∧
      mismatchRecord 3 5 ∈ out.records := by
  intro d out
  have hpart : partPath? ⟨.absolute, ["m"]⟩ = some ⟨.absolute, ["m.part"]⟩ := rfl
  have hfree : ((besideFile [7] [1, 2, 3]).ensureDirectories ⟨.absolute, []⟩).2.stat
      ⟨.absolute, ["m.part"]⟩ ≠ .ok .directory := by
    decide +kernel
  have hsaved := download_saved_sized (d := d) (w := (besideFile [7] [1, 2, 3], ()))
    (apart_fromAnswers ..) "https://localhost/m" hpart (rooted_besideFile [7] [1, 2, 3]) hfree
  have hok : out.result.toOption = some ⟨.absolute, ["m"]⟩ := by decide +kernel
  have hsize : announced (Http.answered? .head (d.exchanges "https://localhost/m"
      ⟨.absolute, ["m"]⟩ (besideFile [7] [1, 2, 3], ()))) = some 5 := by
    decide +kernel
  have hstat : ((d.files.get out.world).stat ⟨.absolute, ["m"]⟩).toOption =
      some (.file [1, 2, 3] (executable 0o644)) := by
    decide +kernel
  obtain ⟨p, hresult⟩ : ∃ p, out.result = .ok p := by
    cases hresult : out.result with
    | ok p => exact ⟨p, rfl⟩
    | error e => simp [hresult, Except.toOption] at hok
  obtain ⟨-, c, ⟨⟨mode, hfile, -⟩, -⟩, -, -, hlength⟩ := hsaved p hresult
  have hsame := (congrArg Except.toOption hfile).symm.trans hstat
  obtain ⟨rfl, -⟩ := FileTree.Node.file.inj (Option.some.inj hsame)
  exact ⟨hok, ⟨mode, hfile⟩, (hlength 5 hsize).resolve_left (by decide)⟩

/-- A download that succeeds with less than has been announced. -/
theorem short_file_of_saved :
    let d := fromAnswers 1 (announcing "5") { body := { bytes := [1, 2, 3] } }
    let destination : Path := ⟨.absolute, ["m"]⟩
    let out := (d.download "https://localhost/m" destination).run ({}, ())
    announced (Http.answered? .head (d.exchanges "https://localhost/m" destination ({}, ()))) =
        some 5 ∧
      out.result.toOption = some destination ∧
      (out.world.1.stat destination).toOption =
        some (.file [1, 2, 3] (executable FileTree.newFileMode)) := by
  decide +kernel

end Downloader

end ChatHost
