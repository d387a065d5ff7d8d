import ChatHost.Proofs.Provider.Download
import ChatHost.Proofs.Provider.Noted

set_option autoImplicit false

/-!
What a transfer from any server leaves in the file in which bytes are collected: a function of what
was there, of the size that is announced, and of the response that the transfer comes to.
-/

namespace ChatHost

/-- What is in the file to which a path leads; nothing when it leads to no file. -/
def FileTree.held (t : FileTree) (p : Path) : Text.Bytes :=
  match (t.stat p).toOption with
  | some (.file content _) => content
  | _ => []

theorem FileTree.held_of_locate {t : FileTree} {p : Path} {place : List String}
    (hp : t.locate p = .ok place) : t.held p = t.contentAt place := by
  rw [held, contentAt, stat_of_locate hp]
  cases t.node? place with
  | none => rfl
  | some node => cases node <;> rfl

namespace Downloader

variable {σ : Type}

def announced : Option Http.Response → Option Nat
  | none => none
  | some r => if r.body.cut.isSome || r.isError then none else announcedSize r

/-- What stays of what has been collected when a size has been announced. -/
def settled (total : Option Nat) (c : Text.Bytes) : Text.Bytes :=
  match total with
  | none => c
  | some size => if c.length ≤ size then c else []

/-- What is collected after a transfer that has come to a response, or to none. -/
def delivered (size : Nat) (c : Text.Bytes) : Option Http.Response → Text.Bytes
  | none => c
  | some r =>
    if r.isError then c
    else (if startsOver c.length r then [] else c) ++ (r.body.pieces size).flatten

def resumed (c : Text.Bytes) : Option Nat :=
  if c.length = 0 then none else some c.length

/-- Whether a tree differs from another one in nothing but the file at a place, which has some
content there, or is not there. -/
structure Holds (t : FileTree) (part : Path) (here : List String) (c : Text.Bytes)
    (t' : FileTree) : Prop where
  rooted : t'.Rooted
  start : t'.start = t.start
  modes : t'.modeRefusal? = t.modeRefusal?
  located : t'.locate part = .ok here
  free : t'.node? here ≠ some .directory
  content : t'.contentAt here = c
  others (q : List String) : q ≠ here → t'.node? q = t.node? q

variable {d : Downloader σ} {t t' : FileTree} {part destination : Path} {here : List String}
  {c : Text.Bytes} {notes : List (Http.Exchange σ)} {v : Noted (Http.Exchange σ) σ}

theorem Holds.edit (h : Holds t part here c t') (f : Text.Bytes → Text.Bytes) :
    ∃ u, t'.edit part f = .ok u ∧ Holds t part here (f c) u := by
  obtain ⟨mode, hedit⟩ := FileTree.edit_eq h.located h.free f
  rw [h.content] at hedit
  have hne := FileTree.ne_nil_of_node? rfl h.free
  obtain ⟨hrooted, hextends⟩ := h.rooted.put (.file (f c) mode)
    (h.rooted.locate_above h.located) hne (fun hd => absurd hd h.free)
  have hnode := FileTree.node?_put t' hne (.file (f c) mode)
  refine ⟨_, hedit, hrooted, h.start, h.modes, hextends.locate h.located, ?_, ?_,
    fun q hq => ?_⟩
  · simp [hnode]
  · simp [FileTree.contentAt, hnode]
  · rw [hnode, if_neg hq, h.others q hq]

/-- A point in a download: what is collected by then, and the exchanges so far. -/
structure Stage (d : Downloader σ) (t : FileTree) (part : Path) (here : List String)
    (c : Text.Bytes) (notes : List (Http.Exchange σ)) (v : Noted (Http.Exchange σ) σ) : Prop where
  holds : Holds t part here c (d.files.get v.world)
  notes : v.notes = notes

theorem Stage.of_preserved {u : Noted (Http.Exchange σ) σ} (h : Stage d t part here c notes v)
    (hfiles : d.files.get u.world = d.files.get v.world) (hnotes : u.notes = v.notes) :
    Stage d t part here c notes u :=
  ⟨hfiles ▸ h.holds, hnotes.trans h.notes⟩

theorem edit_stage (ha : d.Apart) (h : Stage d t part here c notes v)
    (f : Text.Bytes → Text.Bytes) :
    (d.noted.files.update fun t => t.edit part f).Ends v fun r u =>
      r = .ok () ∧ Stage d t part here (f c) notes u := by
  obtain ⟨t', hedit, ht'⟩ := h.holds.edit f
  have hedit' : (d.noted.files.get v).edit part f = .ok t' := hedit
  rw [FileTree.Access.update, Act.ends_ofWorld, hedit']
  refine ⟨rfl, ⟨?_, h.notes⟩⟩
  have hget : d.files.get (d.files.set t' v.world) = t' := ha.get_set t' v.world
  exact hget.symm ▸ ht'

theorem report_stage (ha : d.Apart) (h : Stage d t part here c notes v) (written : Nat)
    (total : Option Nat) (reported : Nat) :
    (d.noted.report written total reported).Ends v fun _ u => Stage d t part here c notes u := by
  have hfiles : (d.noted.report written total reported).Preserves fun v => d.files.get v.world :=
    preserves_report (fun written total v => ha.progress written total v.world) _ _ _
  have hnotes : (d.noted.report written total reported).Preserves Noted.notes :=
    preserves_report (fun _ _ _ => rfl) _ _ _
  exact h.of_preserved (hfiles v) (hnotes v)

theorem writePieces_stage (ha : d.Apart) (pieces : List Text.Bytes) (total : Option Nat)
    (written reported : Nat) (h : Stage d t part here c notes v) :
    (d.noted.writePieces part total written reported pieces).Ends v fun r u =>
      r = .ok () ∧ Stage d t part here (c ++ pieces.flatten) notes u := by
  induction pieces generalizing c v written reported with
  | nil =>
    rw [List.flatten_nil, List.append_nil]
    exact ⟨rfl, h⟩
  | cons piece pieces ih =>
    rw [List.flatten_cons, ← List.append_assoc]
    refine Act.Ends.bind (edit_stage ha h (· ++ piece)) ?_
    rintro _ u ⟨rfl, hu⟩
    refine Act.Ends.bind (report_stage ha hu _ _ _) fun reported' x hx => ?_
    exact ih _ _ hx

theorem receive_stage (ha : d.Apart) (url : String) (offset : Nat) (total : Option Nat)
    (r : Http.Response) (h : Stage d t part here c notes v) :
    (d.noted.receive url part offset total r).Ends v fun result u =>
      Stage d t part here
          ((if startsOver offset r then [] else c) ++ (r.body.pieces d.chunkSize).flatten) notes u ∧
        (result = .ok () → r.body.cut = none) := by
  have hpieces (n : Nat) (base : Text.Bytes) {x : Noted (Http.Exchange σ) σ}
      (hx : Stage d t part here base notes x) :=
    writePieces_stage ha (r.body.pieces d.chunkSize) total n (decile n total) hx
  unfold receive
  dsimp only
  split
  · refine (Act.ends_bind _ _ _ _).2 ((Act.ends_log _ _ _ _ _).2 ?_)
    refine Act.Ends.bind (edit_stage ha h fun _ => []) ?_
    rintro _ u ⟨rfl, hu⟩
    refine Act.Ends.bind (hpieces 0 [] hu) ?_
    rintro _ x ⟨rfl, hx⟩
    dsimp only
    cases hcut : r.body.cut with
    | none => exact ⟨hx, fun _ => rfl⟩
    | some f => exact ⟨hx, nofun⟩
  · refine Act.Ends.bind (edit_stage ha h (· ++ [])) ?_
    rintro _ u ⟨rfl, hu⟩
    rw [List.append_nil] at hu
    refine Act.Ends.bind (hpieces offset c hu) ?_
    rintro _ x ⟨rfl, hx⟩
    dsimp only
    cases hcut : r.body.cut with
    | none => exact ⟨hx, fun _ => rfl⟩
    | some f => exact ⟨hx, nofun⟩

/-- Whether exchanges are for what a transfer asks with a method and an offset, while some content
is collected. -/
def AllAsk (d : Downloader σ) (part : Path) (m : Http.Method) (offset : Option Nat)
    (c : Text.Bytes) (exchanges : List (Http.Exchange σ)) : Prop :=
  ∀ x ∈ exchanges, x.request.method = m ∧ x.request.offset = offset ∧
    (d.files.get x.before).held part = c

theorem request_stage (ha : d.Apart) {r : Http.Request} (hr : r.method ≠ .post)
    (h : Stage d t part here c notes v) :
    (d.noted.client.request r).Ends v fun answer u => ∃ exchanges,
      Http.concluded? exchanges = answer.toOption ∧
        AllAsk d part r.method r.offset c exchanges ∧
        Stage d t part here c (notes ++ exchanges) u := by
  refine (Http.request_noted ha.send hr v).imp ?_
  rintro answer u ⟨exchanges, ⟨hconcluded, halike⟩, hnotes, hfiles⟩
  have hheld : (d.files.get v.world).held part = c := by
    rw [FileTree.held_of_locate h.holds.located, h.holds.content]
  refine ⟨exchanges, hconcluded, fun x hx => ?_, hfiles ▸ h.holds, by rw [hnotes, h.notes]⟩
  obtain ⟨hmethod, hoffset, hbefore⟩ := halike x hx
  exact ⟨hmethod, hoffset, by rw [hbefore, hheld]⟩

/-- Whether a response completes a transfer: it sends all of its body, or says that nothing is
left. -/
def Complete (c : Text.Bytes) (r : Http.Response) : Prop :=
  c ≠ [] ∧ r.status = 416 ∨ r.isError = false ∧ r.body.cut = none

theorem transfer_stage (ha : d.Apart) (url : String) (total : Option Nat)
    (h : Stage d t part here c notes v) :
    (d.noted.transfer url part c.length total).Ends v fun result u => ∃ gets,
      AllAsk d part .get (resumed c) c gets ∧
        Stage d t part here (delivered d.chunkSize c (Http.concluded? gets)) (notes ++ gets) u ∧
        (result = .ok () → ∃ r, Http.concluded? gets = some r ∧ Complete c r) := by
  refine Act.Ends.bind (request_stage ha (by simp) h) ?_
  rintro (f | r) u ⟨gets, hconcluded, hask, hu⟩
  · refine ⟨gets, hask, ?_, nofun⟩
    rw [hconcluded]
    exact hu
  · change Http.concluded? gets = some r at hconcluded
    have hkept (herror : r.isError) : delivered d.chunkSize c (some r) = c := if_pos herror
    dsimp only
    split
    · rename_i hrange
      refine ⟨gets, hask, ?_, fun _ => ⟨r, hconcluded, .inl ⟨?_, hrange.2⟩⟩⟩
      · rw [hconcluded, hkept (by simp [Http.Response.isError, hrange.2])]
        exact hu
      · exact mt List.length_eq_zero_iff.2 hrange.1
    · split
      · rename_i herror
        refine ⟨gets, hask, ?_, nofun⟩
        rw [hconcluded, hkept herror]
        exact hu
      · rename_i herror
        refine (receive_stage ha url c.length total r hu).imp ?_
        rintro result x ⟨hx, hwhole⟩
        refine ⟨gets, hask, ?_, fun hok =>
          ⟨r, hconcluded, .inr ⟨by simpa using herror, hwhole hok⟩⟩⟩
        rw [hconcluded, delivered, if_neg herror]
        exact hx

/-- Asking for the size leaves the files as they are. -/
theorem probe_noted (ha : d.Apart) (url : String) (n : Noted (Http.Exchange σ) σ) :
    (d.noted.probe url).Ends n fun result u => ∃ heads,
      (∀ x ∈ heads, x.request.method = .head ∧ x.request.offset = none) ∧
        u.notes = n.notes ++ heads ∧ d.files.get u.world = d.files.get n.world ∧
        (∀ e, result = .error e → announced (Http.concluded? heads) = none) ∧
        ∀ total, result = .ok total → total = announced (Http.concluded? heads) := by
  refine Act.Ends.bind (Http.request_noted ha.send (by simp) n) ?_
  rintro answer u ⟨heads, ⟨hconcluded, halike⟩, hnotes, hfiles⟩
  have hask : ∀ x ∈ heads, x.request.method = .head ∧ x.request.offset = none :=
    fun x hx => ⟨(halike x hx).1, (halike x hx).2.1⟩
  cases answer with
  | error f =>
    have hnone : announced (Http.concluded? heads) = none := by rw [hconcluded]; rfl
    exact ⟨heads, hask, hnotes, hfiles, fun _ _ => hnone, nofun⟩
  | ok r =>
    change Http.concluded? heads = some r at hconcluded
    dsimp only
    split
    · rename_i f hcut
      have hnone : announced (Http.concluded? heads) = none := by
        simp [hconcluded, announced, hcut]
      exact ⟨heads, hask, hnotes, hfiles, fun _ _ => hnone, nofun⟩
    · rename_i hcut
      split
      · rename_i herror
        have hnone : announced (Http.concluded? heads) = none := by
          simp [hconcluded, announced, herror]
        refine ⟨heads, hask, hnotes, hfiles, fun _ _ => hnone, fun total hok => ?_⟩
        exact (Except.ok.inj hok).symm.trans hnone.symm
      · rename_i herror
        have hsize : announced (Http.concluded? heads) = announcedSize r := by
          simp [hconcluded, announced, hcut, herror]
        refine ⟨heads, hask, hnotes, hfiles, nofun, fun total hok => ?_⟩
        exact (Except.ok.inj hok).symm.trans hsize.symm

theorem settleOffset_stage (ha : d.Apart) (total : Option Nat)
    (h : Stage d t part here c notes v) :
    (d.noted.settleOffset part c.length total).Ends v fun result u =>
      result = .ok (settled total c).length ∧ Stage d t part here (settled total c) notes u := by
  cases total with
  | none => exact ⟨rfl, h⟩
  | some size =>
    by_cases hle : c.length ≤ size
    · rw [settleOffset, settled, if_pos hle, if_pos hle]
      exact ⟨rfl, h⟩
    · rw [settleOffset, settled, if_neg hle, if_neg hle]
      refine (Act.ends_bind _ _ _ _).2 ((Act.ends_log _ _ _ _ _).2 ?_)
      refine Act.Ends.bind (edit_stage ha h fun _ => []) ?_
      rintro _ u ⟨rfl, hu⟩
      exact ⟨rfl, hu⟩

/-- The exchanges of a download: those for the size, then those of the transfer, which go on from
what is left of what was there. -/
structure Asks (d : Downloader σ) (part : Path) (old : Text.Bytes)
    (heads gets : List (Http.Exchange σ)) : Prop where
  size (x : Http.Exchange σ) (hx : x ∈ heads) :
    x.request.method = .head ∧ x.request.offset = none
  transfer : AllAsk d part .get (resumed (settled (announced (Http.concluded? heads)) old))
    (settled (announced (Http.concluded? heads)) old) gets

theorem asks_size {old : Text.Bytes} {heads : List (Http.Exchange σ)}
    (h : ∀ x ∈ heads, x.request.method = .head ∧ x.request.offset = none) :
    Asks d part old heads [] :=
  ⟨h, List.forall_mem_nil _⟩

def gathered (size : Nat) (old : Text.Bytes) (heads gets : List (Http.Exchange σ)) : Text.Bytes :=
  delivered size (settled (announced (Http.concluded? heads)) old) (Http.concluded? gets)

theorem collect_stage (ha : d.Apart) (url : String) (h : Stage d t part here c [] v) :
    (d.noted.collect url part destination).Ends v fun result u => ∃ heads gets,
      Asks d part c heads gets ∧
        Stage d t part here (gathered d.chunkSize c heads gets) (heads ++ gets) u ∧
        ∀ total, result = .ok total → total = announced (Http.concluded? heads) ∧
          ∀ r, Http.concluded? gets = some r → r.status = 416 ∨ r.body.cut = none := by
  refine Act.Ends.andThen (probe_noted ha url v) ?_ ?_
  · rintro total u ⟨heads, hheads, hnotes, hfiles, -, htotal⟩
    obtain rfl := htotal total rfl
    have hu : Stage d t part here c heads u :=
      ⟨hfiles ▸ h.holds, by rw [hnotes, h.notes, List.nil_append]⟩
    have hasks : Asks d part c heads [] := asks_size hheads
    have hcollected := collected_at (d := d.noted) hu.holds.located hu.holds.free
    refine Act.Ends.andThen hcollected ?_ (fun _ _ hlength => nomatch hlength.2)
    rintro _ _ ⟨rfl, hlength⟩
    obtain rfl := Except.ok.inj hlength
    have hsettle := settleOffset_stage ha (announced (Http.concluded? heads)) hu
    rw [← hu.holds.content] at hsettle
    refine Act.Ends.andThen hsettle ?_ (fun _ _ hlength => nomatch hlength.1)
    rintro _ x ⟨hlength, hx⟩
    obtain rfl := Except.ok.inj hlength
    rw [hu.holds.content] at hx ⊢
    split
    · refine ⟨heads, [], hasks, ?_, fun total hok => ⟨(Except.ok.inj hok).symm, nofun⟩⟩
      rw [List.append_nil]
      exact hx
    · refine (Act.ends_bind _ _ _ _).2 ((Act.ends_log _ _ _ _ _).2 ?_)
      refine Act.Ends.bind (transfer_stage ha url _ hx) ?_
      rintro (e | ⟨⟩) y ⟨gets, hgets, hy, hcomplete⟩
      · exact ⟨heads, gets, ⟨hheads, hgets⟩, hy, nofun⟩
      · refine ⟨heads, gets, ⟨hheads, hgets⟩, hy, fun total hok => ⟨(Except.ok.inj hok).symm, ?_⟩⟩
        obtain ⟨r, hr, hwhole⟩ := hcomplete rfl
        rintro r' hr'
        cases hr.symm.trans hr'
        exact hwhole.imp And.right And.right
  · rintro e u ⟨heads, hheads, hnotes, hfiles, hnone, -⟩
    refine ⟨heads, [], asks_size hheads, ?_, nofun⟩
    have hsame : gathered d.chunkSize c heads [] = c := by rw [gathered, hnone e rfl]; rfl
    rw [hsame, List.append_nil]
    exact ⟨hfiles ▸ h.holds, by rw [hnotes, h.notes, List.nil_append]⟩

end Downloader

end ChatHost
