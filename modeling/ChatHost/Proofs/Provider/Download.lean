import ChatHost.Http.Location
import ChatHost.Proofs.FileTree
import ChatHost.Proofs.Http.Client
import ChatHost.Provider.Download

set_option autoImplicit false

/-!
Downloads of one destination, one after the other, from a server that is honest about what it has.
What has been collected is always the head of it, and the destination is all of it or not there.
-/

namespace ChatHost

namespace Http

/-- Whether a body delivers some bytes, or the head of them before it breaks off. -/
def Body.Delivers (bytes : Text.Bytes) (b : Body) : Prop :=
  b.bytes <+: bytes ∧ (b.cut = none → b.bytes = bytes)

/-- Whether the response to a request is honest about the content of what is asked for. A request
for its size is told its length, or no size; one for its bytes is told of an error, or sent all of
them, or sent those from the offset on that it asks for. -/
def Honest (content : Text.Bytes) : Method → Option Nat → Response → Prop
  | .head, _, r =>
    r.body.cut ≠ none ∨ r.isError ∨ Downloader.announcedSize r = none ∨
      Downloader.announcedSize r = some content.length
  | .get, offset, r =>
    r.isError ∧ r.status ≠ 416 ∨ r.status = 200 ∧ r.body.Delivers content ∨
      ∃ n, offset = some n ∧
        (n < content.length ∧ r.status = 206 ∧ r.body.Delivers (content.drop n) ∨
          content.length ≤ n ∧ r.status = 416)
  | .post, _, _ => True

/-- Whether every response to a client is honest, or leads on to another place. -/
def Client.Honest {σ : Type} (content : Text.Bytes) (c : Client σ) : Prop :=
  ∀ r w, (c.send r).Ends w fun answer _ => ∀ response, answer = .ok response →
    (c.rules.next? r response).isSome ∨ Http.Honest content r.method r.offset response

end Http

namespace Downloader

variable {σ : Type}

/-- Whether the files are a part of the world that neither the web nor a report of progress
touches. -/
structure Apart (d : Downloader σ) : Prop where
  get_set (t : FileTree) (w : σ) : d.files.get (d.files.set t w) = t
  send (r : Http.Request) : (d.client.send r).Preserves d.files.get
  progress (written : Nat) (total : Option Nat) : (d.progress written total).Preserves d.files.get

/-- The invariant of the files between downloads of a content: what is collected is the head of it,
and the destination is all of it or no file. -/
structure Sound (content : Text.Bytes) (destination part : Path) (here there : List String)
    (t : FileTree) : Prop where
  rooted : t.Rooted
  directory : t.isDirectory destination.parent
  part : t.locate part = .ok here
  target : t.locate destination = .ok there
  apart : here ≠ there
  free : t.node? here ≠ some .directory
  collected : t.contentAt here <+: content
  installed (c : Text.Bytes) (mode : Nat) : t.node? there = some (.file c mode) → c = content

theorem executable_and (mode : Nat) : executable mode &&& 0o111 = 0o111 := by
  have hall : 0o755 &&& 0o111 = 0o111 := rfl
  rw [executable, Nat.and_or_distrib_right, hall]
  refine Nat.eq_of_testBit_eq fun i => ?_
  rw [Nat.testBit_or, Nat.testBit_and]
  cases Nat.testBit mode i <;> simp

variable {content : Text.Bytes} {destination part : Path} {here there : List String}
  {t t' : FileTree}

namespace Sound

/-- Other content in the file in which bytes are collected. -/
theorem edit (h : Sound content destination part here there t) {f : Text.Bytes → Text.Bytes}
    (hf : f (t.contentAt here) <+: content) :
    ∃ t', t.edit part f = .ok t' ∧ Sound content destination part here there t' ∧
      t'.contentAt here = f (t.contentAt here) := by
  obtain ⟨mode, hedit⟩ := FileTree.edit_eq h.part h.free f
  have hne := FileTree.ne_nil_of_node? rfl h.free
  obtain ⟨hrooted, hextends⟩ := h.rooted.put (.file (f (t.contentAt here)) mode)
    (h.rooted.locate_above h.part) hne (fun hd => absurd hd h.free)
  have hnode := FileTree.node?_put t hne (.file (f (t.contentAt here)) mode)
  have hcontent : (t.put here (.file (f (t.contentAt here)) mode)).contentAt here =
      f (t.contentAt here) := by
    rw [FileTree.contentAt, hnode, if_pos rfl]
  refine ⟨_, hedit, ⟨hrooted, ?_, hextends.locate h.part, hextends.locate h.target, h.apart, ?_, ?_,
    fun c m hc => ?_⟩, hcontent⟩
  · exact hextends.isDirectory h.directory
  · rw [hnode, if_pos rfl]
    simp
  · rwa [hcontent]
  · rw [hnode, if_neg (Ne.symm h.apart)] at hc
    exact h.installed c m hc

theorem stat_part (h : Sound content destination part here there t) {node : FileTree.Node}
    (hn : t.stat part = .ok node) : ∃ mode, t.node? here = some (.file (t.contentAt here) mode) ∧
      node = .file (t.contentAt here) mode :=
  FileTree.file_of_stat h.part h.free hn

end Sound

variable {d : Downloader σ} {w : σ}

theorem update_ends (ha : d.Apart) {f : FileTree → Except OsError FileTree}
    (hf : f (d.files.get w) = .ok t') :
    (d.files.update f).Ends w fun r v => r = .ok () ∧ d.files.get v = t' := by
  rw [FileTree.Access.update, Act.ends_ofWorld, hf]
  exact ⟨rfl, ha.get_set t' w⟩

theorem preserves_report {γ : Type} {f : σ → γ}
    (hf : ∀ written total, (d.progress written total).Preserves f) (written : Nat)
    (total : Option Nat) (reported : Nat) : (d.report written total reported).Preserves f := by
  refine (hf written total).bind fun _ => ?_
  split
  · dsimp only
    split
    · exact (Act.preserves_log _ _ _).bind fun _ => Act.preserves_pure _
    · exact (Act.preserves_pure _).bind fun _ => Act.preserves_pure _
  · exact (Act.preserves_pure _).bind fun _ => Act.preserves_pure _

theorem writePieces_ends (ha : d.Apart) (pieces : List Text.Bytes) (total : Option Nat)
    (written reported : Nat) (h : Sound content destination part here there (d.files.get w))
    (hp : (d.files.get w).contentAt here ++ pieces.flatten <+: content) :
    (d.writePieces part total written reported pieces).Ends w fun r v => r = .ok () ∧
      Sound content destination part here there (d.files.get v) ∧
      (d.files.get v).contentAt here = (d.files.get w).contentAt here ++ pieces.flatten := by
  induction pieces generalizing w written reported with
  | nil => exact ⟨rfl, h, (List.append_nil _).symm⟩
  | cons piece pieces ih =>
    rw [List.flatten_cons, ← List.append_assoc] at hp
    obtain ⟨t', hedit, h', hcontent⟩ := h.edit (f := (· ++ piece))
      ((List.prefix_append _ _).trans hp)
    refine Act.Ends.bind (update_ends ha hedit) ?_
    rintro _ v ⟨rfl, hv⟩
    refine Act.Ends.bind ((preserves_report ha.progress _ _ _).ends v) fun reported' u hu => ?_
    rw [hv] at hu
    have hpieces := ih (w := u) (written + piece.length) reported' (hu ▸ h') (by rwa [hu, hcontent])
    rw [hu, hcontent] at hpieces
    rwa [List.flatten_cons, ← List.append_assoc]

/-- A body is written behind what has been collected, or in its place. -/
theorem receive_ends (ha : d.Apart) (url : String) {offset : Nat} (total : Option Nat)
    {r : Http.Response} (h : Sound content destination part here there (d.files.get w))
    {base : Text.Bytes}
    (hbase : base = if startsOver offset r then [] else (d.files.get w).contentAt here)
    (hr : base ++ r.body.bytes <+: content)
    (hwhole : r.body.cut = none → base ++ r.body.bytes = content) :
    (d.receive url part offset total r).Ends w fun result v =>
      Sound content destination part here there (d.files.get v) ∧
        (result = .ok () → (d.files.get v).contentAt here = content) := by
  have hprefix : base ++ (r.body.pieces d.chunkSize).flatten <+: content := by
    refine List.IsPrefix.trans ?_ hr
    exact (List.prefix_append_right_inj base).2 (r.body.pieces_prefix d.chunkSize)
  have hwritten : ∀ n v, Sound content destination part here there (d.files.get v) →
      (d.files.get v).contentAt here = base →
      (d.writePieces part total n (decile n total) (r.body.pieces d.chunkSize)).Ends v
        fun result u => result = .ok () ∧
          Sound content destination part here there (d.files.get u) ∧
          (r.body.cut = none → (d.files.get u).contentAt here = content) := by
    intro n v hv hbase
    refine (writePieces_ends ha _ total n _ hv (by rwa [hbase])).imp ?_
    rintro _ u ⟨rfl, hu, hcontent⟩
    refine ⟨rfl, hu, fun hcut => ?_⟩
    rw [hcontent, hbase, r.body.pieces_whole d.chunkSize hcut, hwhole hcut]
  unfold receive
  dsimp only
  split
  · rename_i hrestart
    rw [if_pos hrestart] at hbase
    obtain ⟨t', hedit, h', hcontent⟩ := h.edit (f := fun _ => []) List.nil_prefix
    refine (Act.ends_bind _ _ _ _).2 ((Act.ends_log _ _ _ _ _).2 ?_)
    refine Act.Ends.bind (update_ends ha hedit) ?_
    rintro _ v ⟨rfl, rfl⟩
    refine Act.Ends.bind (hwritten 0 v h' (hcontent.trans hbase.symm)) ?_
    rintro _ u ⟨rfl, hu, hend⟩
    dsimp only
    split
    · exact ⟨hu, fun hok => by cases hok⟩
    · rename_i hcut
      exact ⟨hu, fun _ => hend hcut⟩
  · rename_i hrestart
    rw [if_neg hrestart] at hbase
    obtain ⟨t', hedit, h', hcontent⟩ := h.edit (f := (· ++ [])) (by simpa using h.collected)
    rw [List.append_nil, ← hbase] at hcontent
    refine Act.Ends.bind (update_ends ha hedit) ?_
    rintro _ v ⟨rfl, rfl⟩
    refine Act.Ends.bind (hwritten offset v h' hcontent) ?_
    rintro _ u ⟨rfl, hu, hend⟩
    dsimp only
    split
    · exact ⟨hu, fun hok => by cases hok⟩
    · rename_i hcut
      exact ⟨hu, fun _ => hend hcut⟩

theorem request_ends (ha : d.Apart) (hc : d.client.Honest content) {r : Http.Request}
    (hr : r.method ≠ .post) (w : σ) :
    (d.client.request r).Ends w fun answer v => d.files.get v = d.files.get w ∧
      ∀ response, answer = .ok response → Http.Honest content r.method r.offset response :=
  ⟨Http.preserves_request ha.send r w, Http.ends_request hc hr w⟩

/-- A transfer leaves the head of the content, and all of it when it succeeds. -/
theorem transfer_ends (ha : d.Apart) (hc : d.client.Honest content) (url : String)
    (total : Option Nat) (h : Sound content destination part here there (d.files.get w)) :
    (d.transfer url part ((d.files.get w).contentAt here).length total).Ends w fun result v =>
      Sound content destination part here there (d.files.get v) ∧
        (result = .ok () → (d.files.get v).contentAt here = content) := by
  refine Act.Ends.bind (request_ends ha hc (by simp) w) ?_
  rintro (f | r) v ⟨hv, hr⟩
  · rw [← hv] at h
    exact ⟨h, fun hok => by cases hok⟩
  · have hhonest := hr r rfl
    rw [← hv] at h hhonest ⊢
    generalize hoffset : ((d.files.get v).contentAt here).length = offset at hhonest ⊢
    dsimp only at hhonest ⊢
    split
    · rename_i hcomplete
      rcases hhonest with ⟨-, hne⟩ | ⟨hok, -⟩ | ⟨n, hn, ⟨-, hpartial, -⟩ | ⟨hlength, -⟩⟩
      · exact absurd hcomplete.2 hne
      · omega
      · omega
      · rw [if_neg hcomplete.1, Option.some.injEq] at hn
        have hall := h.collected.eq_of_length_le (by omega)
        exact ⟨h, fun _ => hall⟩
    · rename_i hrange
      split
      · exact ⟨h, fun hok => by cases hok⟩
      · rename_i herror
        rcases hhonest with ⟨hiserror, -⟩ | ⟨hok, hbody, hwhole⟩ |
          ⟨n, hn, ⟨-, hpartial, hbody, hwhole⟩ | ⟨hlength, hnone⟩⟩
        · exact absurd hiserror herror
        · have hbase : ([] : Text.Bytes) =
              if startsOver offset r then [] else (d.files.get v).contentAt here := by
            split
            · rfl
            · rename_i hkeep
              have hzero : offset = 0 := by simpa [startsOver, hok] using hkeep
              exact (List.length_eq_zero_iff.1 (hoffset.trans hzero)).symm
          exact receive_ends ha url total h hbase hbody hwhole
        · have hn0 : offset ≠ 0 := by
            rintro rfl
            simp at hn
          rw [if_neg hn0, Option.some.injEq] at hn
          subst hn
          obtain ⟨rest, hrest⟩ := h.collected
          rw [← hrest, ← hoffset, List.drop_left] at hbody hwhole
          refine receive_ends ha url total h (if_neg (by simp [startsOver, hpartial])).symm ?_ ?_
          · rw [← hrest]
            exact (List.prefix_append_right_inj _).2 hbody
          · intro hcut
            rw [hwhole hcut, hrest]
        · have hn0 : offset ≠ 0 := by
            rintro rfl
            simp at hn
          exact absurd ⟨hn0, hnone⟩ hrange

theorem probe_ends (ha : d.Apart) (hc : d.client.Honest content) (url : String) :
    (d.probe url).Ends w fun result v => d.files.get v = d.files.get w ∧
      ∀ total, result = .ok total → total = none ∨ total = some content.length := by
  refine Act.Ends.bind (request_ends ha hc (by simp) w) ?_
  rintro (f | r) v ⟨hv, hr⟩
  · exact ⟨hv, fun total hok => by cases hok⟩
  · dsimp only
    split
    · exact ⟨hv, fun total hok => by cases hok⟩
    · rename_i hcut
      split
      · exact ⟨hv, fun total hok => .inl (Except.ok.inj hok).symm⟩
      · rename_i herror
        refine ⟨hv, fun total hok => ?_⟩
        obtain rfl := Except.ok.inj hok
        rcases hr r rfl with hcut' | hsize | hsize
        · exact absurd hcut hcut'
        · exact absurd hsize herror
        · exact hsize

theorem collected_at (hpart : (d.files.get w).locate part = .ok here)
    (hfree : (d.files.get w).node? here ≠ some .directory) :
    (d.collected part).Ends w fun result v => v = w ∧
      result = .ok ((d.files.get w).contentAt here).length := by
  refine Act.Ends.bind (p := fun r v => r = (d.files.get w).stat part ∧ v = w) ⟨rfl, rfl⟩ ?_
  rintro r v ⟨hr, rfl⟩
  cases r with
  | ok node =>
    obtain ⟨mode, -, rfl⟩ := FileTree.file_of_stat hpart hfree hr.symm
    exact ⟨rfl, rfl⟩
  | error e =>
    rw [FileTree.stat_of_locate hpart] at hr
    cases hn : (d.files.get v).node? here with
    | some node => simp [hn] at hr
    | none =>
      simp only [hn, Except.error.injEq] at hr
      subst hr
      have hnil : (d.files.get v).contentAt here = [] := by rw [FileTree.contentAt, hn]
      rw [hnil]
      exact ⟨rfl, rfl⟩

theorem collected_ends (h : Sound content destination part here there (d.files.get w)) :
    (d.collected part).Ends w fun result v => v = w ∧
      result = .ok ((d.files.get w).contentAt here).length :=
  collected_at h.part h.free

theorem settleOffset_ends {offset : Nat} {total : Option Nat}
    (htotal : total = none ∨ total = some content.length) (hoffset : offset ≤ content.length) :
    (d.settleOffset part offset total).Ends w fun result v => v = w ∧ result = .ok offset := by
  rcases htotal with rfl | rfl
  · exact ⟨rfl, rfl⟩
  · rw [settleOffset, if_pos hoffset]
    exact ⟨rfl, rfl⟩

/-- Collecting leaves the head of the content, and all of it when it succeeds. -/
theorem collect_ends (ha : d.Apart) (hc : d.client.Honest content) (url : String)
    (h : Sound content destination part here there (d.files.get w)) :
    (d.collect url part destination).Ends w fun result v =>
      Sound content destination part here there (d.files.get v) ∧
        (∀ total, result = .ok total → (d.files.get v).contentAt here = content) := by
  refine Act.Ends.andThen (probe_ends ha hc url) ?_ ?_
  · rintro total v ⟨hv, htotal⟩
    rw [← hv] at h
    refine Act.Ends.andThen (collected_ends h) ?_ ?_
    · rintro _ _ ⟨rfl, hlength⟩
      obtain rfl := Except.ok.inj hlength
      refine Act.Ends.andThen (settleOffset_ends (htotal total rfl) h.collected.length_le) ?_ ?_
      · rintro _ u ⟨rfl, hoffset⟩
        obtain rfl := Except.ok.inj hoffset
        split
        · rename_i hcomplete
          have hlength : ((d.files.get u).contentAt here).length = content.length := by
            rcases htotal total rfl with rfl | rfl
            · cases hcomplete
            · exact (Option.some.inj hcomplete).symm
          have hall := h.collected.eq_of_length hlength
          exact ⟨h, fun _ _ => hall⟩
        · refine (Act.ends_bind _ _ _ _).2 ((Act.ends_log _ _ _ _ _).2 ?_)
          refine Act.Ends.bind (transfer_ends ha hc url total h) ?_
          rintro (e | ⟨⟩) x ⟨hx, hall⟩
          · exact ⟨hx, fun total hok => by cases hok⟩
          · exact ⟨hx, fun _ _ => hall rfl⟩
      · rintro _ _ ⟨-, hoffset⟩
        cases hoffset
    · rintro _ _ ⟨-, hlength⟩
      cases hlength
  · rintro e v ⟨hv, -⟩
    rw [← hv] at h
    exact ⟨h, fun total hok => by cases hok⟩

/-- Whether a destination is all of a content and executable, and nothing is left of what was
collected. -/
def Installed (content : Text.Bytes) (destination part : Path) (t : FileTree) : Prop :=
  (∃ mode, t.stat destination = .ok (.file content mode) ∧ mode &&& 0o111 = 0o111) ∧
    ∀ node, t.stat part ≠ .ok node

/-- A file that is installed is moved and made executable, and nothing else changes. Where its mode
cannot be changed it is moved all the same. -/
theorem install_file (h : t.Rooted) (hpart : t.locate part = .ok here)
    (htarget : t.locate destination = .ok there) (hapart : here ≠ there) {c : Text.Bytes}
    {mode : Nat} (hhere : t.node? here = some (.file c mode))
    (hthere : t.node? there ≠ some .directory) :
    ∃ result mode' t', install part destination t = (result, t') ∧ t'.Rooted ∧ t.Extends t' ∧
      (∀ q, t'.node? q = if q = there then some (.file c mode')
        else if q = here then none else t.node? q) ∧
      (result = .ok () ∧ mode' = executable mode ∨ ∃ number, t.modeRefusal? there = some number ∧
        result = .error (FileTree.failure number destination)) := by
  obtain ⟨t', hmove, hrooted, hextends, hnode⟩ := h.move hpart htarget hapart hhere hthere
  have hfile : t'.node? there = some (.file c mode) := by rw [hnode, if_pos rfl]
  have hne := FileTree.ne_nil_of_node? hfile (by simp)
  have htarget' := hextends.locate htarget
  have hchange := FileTree.changeMode_eq htarget' hfile executable
  rw [hextends.modes] at hchange
  cases hrefusal : t.modeRefusal? there with
  | some number =>
    rw [hrefusal] at hchange
    refine ⟨_, mode, t', ?_, hrooted, hextends, hnode, .inr ⟨number, rfl, rfl⟩⟩
    rw [install, hmove]
    simp only [hchange]
  | none =>
    rw [hrefusal] at hchange
    obtain ⟨hrooted', hextends'⟩ := hrooted.put (.file c (executable mode))
      (hrooted.locate_above htarget') hne (by simp [hfile])
    refine ⟨_, executable mode, _, ?_, hrooted', hextends.trans hextends', fun q => ?_,
      .inl ⟨rfl, rfl⟩⟩
    · rw [install, hmove]
      simp only [hchange]
    · rw [FileTree.node?_put t' hne, hnode]
      split_ifs <;> rfl

theorem installed_of_node? (hpart : t.locate part = .ok here)
    (htarget : t.locate destination = .ok there) {mode : Nat}
    (hthere : t.node? there = some (.file content (executable mode)))
    (hhere : t.node? here = none) : Installed content destination part t := by
  refine ⟨⟨executable mode, ?_, executable_and mode⟩, fun node hstat => ?_⟩
  · rw [FileTree.stat_of_locate htarget, hthere]
  · rw [FileTree.stat_of_locate hpart, hhere] at hstat
    cases hstat

theorem install_ends (h : Sound content destination part here there t)
    (hall : t.contentAt here = content) {node : FileTree.Node} (hn : t.stat part = .ok node) :
    Sound content destination part here there (install part destination t).2 ∧
      ((install part destination t).1 = .ok () →
        Installed content destination part (install part destination t).2) := by
  obtain ⟨mode, hhere, -⟩ := h.stat_part hn
  rw [hall] at hhere
  by_cases hthere : t.node? there = some .directory
  · rw [install, FileTree.move_onto_directory h.part h.target hhere hthere]
    exact ⟨h, fun hok => by cases hok⟩
  · obtain ⟨result, mode', t', hinstall, hrooted, hextends, hnode, hresult⟩ :=
      install_file h.rooted h.part h.target h.apart hhere hthere
    have hpart := hextends.locate h.part
    have htarget := hextends.locate h.target
    have hnone : t'.node? here = none := by rw [hnode, if_neg h.apart, if_pos rfl]
    have hfile : t'.node? there = some (.file content mode') := by
      rw [hnode, if_pos rfl]
    rw [hinstall]
    refine ⟨⟨hrooted, hextends.isDirectory h.directory, hpart, htarget, h.apart, by simp [hnone],
      by simp [FileTree.contentAt, hnone], fun c m hc => ?_⟩, fun hok => ?_⟩
    · rw [hfile] at hc
      cases hc
      rfl
    · rcases hresult with ⟨-, rfl⟩ | ⟨number, -, hfailed⟩
      · exact installed_of_node? hpart htarget hfile hnone
      · cases hok.symm.trans hfailed

/-- The same for what follows on the installation and keeps its success and the files. -/
theorem installed_ends (ha : d.Apart) {ε : Type}
    (h : Sound content destination part here there (d.files.get w))
    (hall : (d.files.get w).contentAt here = content) {node : FileTree.Node}
    (hn : (d.files.get w).stat part = .ok node) {k : Except OsError Unit → Act σ (Except ε Path)}
    (herror : ∀ e v, (k (.error e)).Ends v fun result u => u = v ∧ ∀ p, result ≠ .ok p)
    (hok : ∀ v, (k (.ok ())).Ends v fun result u => u = v ∧ result = .ok destination) :
    Act.Ends (d.files.within (.ofWorld (install part destination)) >>= k) w fun result v =>
      Sound content destination part here there (d.files.get v) ∧
        (∀ p, result = .ok p → p = destination ∧
          Installed content destination part (d.files.get v)) := by
  have hinstall : (d.files.within (.ofWorld (install part destination))).Ends w fun r u =>
      Sound content destination part here there (d.files.get u) ∧
        (r = .ok () → Installed content destination part (d.files.get u)) := by
    rw [FileTree.Access.within, Act.ends_zoom, Act.ends_ofWorld, ha.get_set]
    exact install_ends h hall hn
  refine Act.Ends.bind hinstall ?_
  rintro (e | ⟨⟩) u ⟨hu, hsaved⟩
  · refine (herror e u).imp ?_
    rintro result v ⟨rfl, hfailed⟩
    exact ⟨hu, fun p hp => absurd hp (hfailed p)⟩
  · refine (hok u).imp ?_
    rintro result v ⟨rfl, hdone⟩
    refine ⟨hu, fun p hp => ⟨?_, hsaved rfl⟩⟩
    exact (Except.ok.inj (hdone.symm.trans hp)).symm

theorem finalize_ends (ha : d.Apart) (total : Option Nat)
    (h : Sound content destination part here there (d.files.get w))
    (hall : (d.files.get w).contentAt here = content) :
    (d.finalize part destination total).Ends w fun result v =>
      Sound content destination part here there (d.files.get v) ∧
        (∀ p, result = .ok p → p = destination ∧
          Installed content destination part (d.files.get v)) := by
  refine Act.Ends.bind (p := fun r v => r = (d.files.get w).stat part ∧ v = w) ⟨rfl, rfl⟩ ?_
  rintro r v ⟨hr, rfl⟩
  cases r with
  | error e => exact ⟨h, fun p hok => by cases hok⟩
  | ok node =>
    -- a wrong size is recorded, and is no reason not to go on
    dsimp only
    split
    · split
      · refine (Act.ends_bind _ _ _ _).2 ((Act.ends_log _ _ _ _ _).2 ?_)
        exact installed_ends ha h hall hr.symm (fun _ _ => ⟨rfl, fun _ => nofun⟩)
          fun _ => ⟨rfl, rfl⟩
      · exact installed_ends ha h hall hr.symm (fun _ _ => ⟨rfl, fun _ => nofun⟩)
          fun _ => ⟨rfl, rfl⟩
    · exact installed_ends ha h hall hr.symm (fun _ _ => ⟨rfl, fun _ => nofun⟩)
        fun _ => ⟨rfl, rfl⟩

/-- Whether a download may begin: the directory of the destination is there or can be made, and then
the invariant holds. -/
def Ready (content : Text.Bytes) (destination part : Path) (here there : List String)
    (t : FileTree) : Prop :=
  (t.ensureDirectories destination.parent).1 = .ok () ∧
    Sound content destination part here there (t.ensureDirectories destination.parent).2

theorem Sound.ready (h : Sound content destination part here there t) :
    Ready content destination part here there t := by
  rw [Ready, FileTree.ensureDirectories_of_isDirectory h.directory]
  exact ⟨rfl, h⟩

theorem download_ends (ha : d.Apart) (hc : d.client.Honest content) (url : String)
    (hpart : partPath? destination = some part)
    (h : Ready content destination part here there (d.files.get w)) :
    (d.download url destination).Ends w fun result v =>
      Sound content destination part here there (d.files.get v) ∧
        (∀ p, result = .ok p → p = destination ∧
          Installed content destination part (d.files.get v)) := by
  obtain ⟨hmade, hsound⟩ := h
  have hensure : (d.files.ensureDirectories destination.parent).Ends w fun r v =>
      r = .ok () ∧ Sound content destination part here there (d.files.get v) := by
    rw [FileTree.Access.ensureDirectories, Act.ends_ofWorld, ha.get_set]
    exact ⟨hmade, hsound⟩
  refine Act.Ends.bind hensure ?_
  rintro _ v ⟨rfl, hv⟩
  dsimp only
  rw [hpart]
  refine Act.Ends.andThen (collect_ends ha hc url hv) ?_ ?_
  · rintro total u ⟨hu, hall⟩
    exact finalize_ends ha total hu (hall total rfl)
  · rintro e u ⟨hu, -⟩
    exact ⟨hu, fun p hok => by cases hok⟩

/-- A tree in which downloads to a destination begin. The directory is there or can be made; then
the file in which bytes are collected can be written, and neither it nor the destination is
there. -/
structure Begins (destination part : Path) (t : FileTree) : Prop where
  rooted : t.Rooted
  made : (t.ensureDirectories destination.parent).1 = .ok ()
  writable : ∃ t', (t.ensureDirectories destination.parent).2.write part [] = .ok t'
  part (node : FileTree.Node) : (t.ensureDirectories destination.parent).2.stat part ≠ .ok node
  destination (c : Text.Bytes) (mode : Nat) :
    (t.ensureDirectories destination.parent).2.stat destination ≠ .ok (.file c mode)

theorem parts_of_partPath (h : partPath? destination = some part) :
    ∃ name, destination = destination.parent.child name ∧
      part = destination.parent.child (name ++ ".part") := by
  obtain ⟨name, hname, rfl⟩ := Option.map_eq_some_iff.1 h
  refine ⟨name, ?_, rfl⟩
  obtain ⟨parts, hparts⟩ := List.getLast?_eq_some_iff.1 hname
  rw [Path.child, Path.parent, hparts, List.dropLast_concat, ← hparts]

theorem length_utf8_append (s u : String) :
    (Text.utf8 s).length ≤ (Text.utf8 (s ++ u)).length := by
  simp only [Text.utf8, Text.encodeUtf8, String.toList_append, List.flatMap_append,
    List.length_append]
  omega

theorem onward_part (q : List String) (name : String) :
    FileTree.onward q (name ++ ".part") = q ++ [name ++ ".part"] ∧
      FileTree.onward q (name ++ ".part") ≠ FileTree.onward q name := by
  have hne : ∀ other : String, other.length < name.length + 5 → name ++ ".part" ≠ other := by
    rintro other hlength rfl
    rw [String.length_append] at hlength
    exact absurd hlength (Nat.lt_irrefl _)
  have hpart : FileTree.onward q (name ++ ".part") = q ++ [name ++ ".part"] := by
    rw [FileTree.onward, if_neg]
    exact hne ".." (Nat.lt_of_lt_of_le (by decide) (Nat.le_add_left 5 _))
  refine ⟨hpart, ?_⟩
  rw [hpart, FileTree.onward]
  split
  · intro heq
    have hlength := congrArg List.length heq
    simp at hlength
    omega
  · intro heq
    exact hne name (by omega) (List.singleton_inj.1 (List.append_cancel_left heq))

theorem Begins.ready (h : Begins destination part t) (hpart : partPath? destination = some part)
    (content : Text.Bytes) : ∃ here there, Ready content destination part here there t := by
  obtain ⟨hrooted, -⟩ := h.rooted.ensureDirectories destination.parent
  obtain ⟨name, hname, rfl⟩ := parts_of_partPath hpart
  obtain ⟨u, hwrite⟩ := h.writable
  obtain ⟨here, hhere, hfree⟩ := FileTree.locate_of_edit hwrite
  obtain ⟨q, hq, hdir, hlength, rfl⟩ := FileTree.locate_child.1 hhere
  have hthere := FileTree.locate_child.2
    ⟨q, hq, hdir, Nat.le_trans (length_utf8_append name ".part") hlength, rfl⟩
  rw [← hname] at hthere
  refine ⟨_, _, h.made, hrooted, FileTree.isDirectory_iff.2 ⟨q, hq, hdir⟩, hhere, hthere,
    (onward_part q name).2, hfree, ?_, fun c mode hc => ?_⟩
  · rw [FileTree.contentAt]
    split
    · rename_i c mode hc
      exact absurd (by rw [FileTree.stat_of_locate hhere, hc]) (h.part (.file c mode))
    · exact List.nil_prefix
  · exact absurd (by rw [FileTree.stat_of_locate hthere, hc]) (h.destination c mode)

/-- One of several downloads: by whom, and from where. -/
structure Attempt (σ : Type) where
  downloader : Downloader σ
  url : String

/-- Whether a download takes place in some files apart from the rest of the world, and from a server
that is honest about a content. -/
structure Attempt.Fair (files : FileTree.Access σ) (content : Text.Bytes) (a : Attempt σ) :
    Prop where
  files : a.downloader.files = files
  apart : a.downloader.Apart
  honest : a.downloader.client.Honest content

def afterEach (destination : Path) (w : σ) (attempts : List (Attempt σ)) : σ :=
  attempts.foldl (fun w a => ((a.downloader.download a.url destination).run w).world) w

theorem afterEach_ready {files : FileTree.Access σ} {attempts : List (Attempt σ)}
    (hfair : ∀ a ∈ attempts, a.Fair files content) (hpart : partPath? destination = some part)
    (h : Ready content destination part here there (files.get w)) :
    Ready content destination part here there (files.get (afterEach destination w attempts)) := by
  induction attempts generalizing w with
  | nil => exact h
  | cons a attempts ih =>
    obtain ⟨rfl, hapart, hhonest⟩ := hfair a List.mem_cons_self
    obtain ⟨hsound, -⟩ := download_ends hapart hhonest a.url hpart h
    exact ih (fun b hb => hfair b (List.mem_cons_of_mem a hb)) hsound.ready

/-- However often a destination is downloaded from a server that is honest about a content, after
every download what is collected is the head of the content, the destination is all of it or no
file, and after one that succeeds it is there and executable, and nothing is left of what was
collected. -/
theorem download_of_honest {files : FileTree.Access σ} {attempts : List (Attempt σ)}
    {last : Attempt σ} (hfair : ∀ a ∈ attempts ++ [last], a.Fair files content)
    (hpart : partPath? destination = some part) (hbegins : Begins destination part (files.get w)) :
    (last.downloader.download last.url destination).Ends (afterEach destination w attempts)
      fun result v =>
        (∀ node, (files.get v).stat part = .ok node → ∃ c mode, node = .file c mode ∧
          c <+: content) ∧
        (∀ c mode, (files.get v).stat destination = .ok (.file c mode) → c = content) ∧
        (∀ p, result = .ok p → p = destination ∧
          (∃ mode, (files.get v).stat destination = .ok (.file content mode) ∧
            mode &&& 0o111 = 0o111) ∧
          ∀ node, (files.get v).stat part ≠ .ok node) := by
  obtain ⟨here, there, hready⟩ := hbegins.ready hpart content
  have hready' := afterEach_ready (fun a ha => hfair a (List.mem_append_left _ ha)) hpart hready
  obtain ⟨rfl, hapart, hhonest⟩ := hfair last (by simp)
  refine (download_ends hapart hhonest last.url hpart hready').imp ?_
  rintro result v ⟨hsound, hsaved⟩
  refine ⟨fun node hnode => ?_, fun c mode hc => ?_, hsaved⟩
  · obtain ⟨mode, -, rfl⟩ := hsound.stat_part hnode
    exact ⟨_, mode, rfl, hsound.collected⟩
  · rw [FileTree.stat_of_locate hsound.target] at hc
    cases hn : (last.downloader.files.get v).node? there with
    | none => simp [hn] at hc
    | some node =>
      simp only [hn, Except.ok.injEq] at hc
      exact hsound.installed c mode (hn.trans (congrArg some hc))

/-- A server of some bytes that sends no size. It breaks off when it has sent a number of bytes, if
one is given. -/
def serving (content : Text.Bytes) (limit : Option Nat) : Http.Client σ where
  rules := .standard
  send r :=
    let body (bytes : Text.Bytes) : Http.Body :=
      match limit with
      | none => { bytes := bytes }
      | some n => { bytes := bytes.take n, cut := some ⟨.transport, "connection lost"⟩ }
    pure <| .ok <|
      match r.method, r.offset with
      | .head, _ => { status := 405 }
      | _, none => { body := body content }
      | _, some n =>
        if n < content.length then { status := 206, body := body (content.drop n) }
        else { status := 416 }

theorem serving_honest (content : Text.Bytes) (limit : Option Nat) :
    (serving (σ := σ) content limit).Honest content := by
  have hdelivers : ∀ bytes : Text.Bytes, Http.Body.Delivers bytes (match limit with
      | none => { bytes := bytes }
      | some n => { bytes := bytes.take n, cut := some ⟨.transport, "connection lost"⟩ }) := by
    intro bytes
    cases limit with
    | none => exact ⟨List.prefix_refl _, fun _ => rfl⟩
    | some n => exact ⟨List.take_prefix _ _, fun h => by cases h⟩
  rintro ⟨method, url, offset, payload⟩ w response h
  obtain rfl := Except.ok.inj h
  right
  cases method with
  | post => trivial
  | head => exact .inr (.inl rfl)
  | get =>
    cases offset with
    | none => exact .inr (.inl ⟨rfl, hdelivers content⟩)
    | some n =>
      refine .inr (.inr ⟨n, rfl, ?_⟩)
      by_cases hn : n < content.length
      · simp only [hn, if_true]
        exact .inl ⟨trivial, trivial, hdelivers _⟩
      · simp only [hn, if_false]
        exact .inr ⟨by omega, trivial⟩

/-- A download in pieces of two bytes, into a world of nothing but files. -/
def inFiles (limit : Option Nat) : Attempt (FileTree × Unit) where
  downloader :=
    { files := ⟨Prod.fst, fun t w => (t, w.2)⟩
      client := serving [1, 2, 3] limit
      chunkSize := 2 }
  url := "https://localhost/m"

/-- A download that breaks off and one that goes on where it did. -/
theorem download_of_honest_resumed :
    let between := afterEach ⟨.absolute, ["m"]⟩ ({}, ()) [inFiles (some 2)]
    let out := ((inFiles none).downloader.download (inFiles none).url
      ⟨.absolute, ["m"]⟩).run between
    between.1.node? ["m.part"] = some (.file [1, 2] FileTree.newFileMode) ∧
      out.result = .ok ⟨.absolute, ["m"]⟩ ∧
      ∃ mode, out.world.1.stat ⟨.absolute, ["m"]⟩ = .ok (.file [1, 2, 3] mode) ∧
        mode &&& 0o111 = 0o111 := by
  intro between out
  have hfair : ∀ limit, (inFiles limit).Fair ⟨Prod.fst, fun t w => (t, w.2)⟩ [1, 2, 3] :=
    fun limit => ⟨rfl, ⟨fun _ _ => rfl, fun _ _ => rfl, fun _ _ _ => rfl⟩, serving_honest _ _⟩
  have hfairs : ∀ a ∈ [inFiles (some 2)] ++ [inFiles none],
      a.Fair ⟨Prod.fst, fun t w => (t, w.2)⟩ [1, 2, 3] := by
    simp [hfair]
  have hbegins : Begins ⟨.absolute, ["m"]⟩ ⟨.absolute, ["m.part"]⟩ {} :=
    ⟨FileTree.rooted_empty, rfl, ⟨_, rfl⟩, fun _ h => (nomatch h), fun _ _ h => (nomatch h)⟩
  obtain ⟨-, -, hsaved⟩ := download_of_honest (w := ({}, ())) hfairs rfl hbegins
  have hresult : out.result.toOption = some ⟨.absolute, ["m"]⟩ := by decide +kernel
  have hok : out.result = .ok ⟨.absolute, ["m"]⟩ := by
    cases h : out.result with
    | error e => simp [h, Except.toOption] at hresult
    | ok p => simpa [h, Except.toOption] using hresult
  exact ⟨by decide +kernel, hok, (hsaved _ hok).2.1⟩

end Downloader

end ChatHost
