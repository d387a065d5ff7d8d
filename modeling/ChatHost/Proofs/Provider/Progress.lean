import ChatHost.Proofs.Provider.Finish

set_option autoImplicit false

/-!
What a transfer tells of its progress. A report follows every piece and says how much is collected
by then; a record is written at each piece that brings more tens of the announced size than any
before it.
-/

namespace ChatHost.Downloader

/-! ### Marks and milestones -/

/-- How much there is after each of some pieces: what was there at the start and the sum of their
lengths so far. -/
def marks (start : Nat) (pieces : List Text.Bytes) : List Nat :=
  ((pieces.map List.length).scanl (· + ·) start).tail

/-- How much of a size is there, in percent, rounded down to tens; a hundred from the size on. -/
def percent (size n : Nat) : Nat :=
  min 100 (10 * (10 * n / size))

/-- The marks at which there are more tens than at the mark before. -/
def milestones (size : Nat) : Nat → List Nat → List Nat
  | _, [] => []
  | before, n :: marks =>
    if percent size before < percent size n then n :: milestones size n marks
    else milestones size n marks

/-- Whether there is a mark with more tens than the start and all marks before it. -/
def FirstReaches (size start : Nat) (marks : List Nat) (n : Nat) : Prop :=
  ∃ front back, marks = front ++ n :: back ∧
    ∀ m ∈ start :: front, percent size m < percent size n

theorem marks_cons (start : Nat) (piece : Text.Bytes) (pieces : List Text.Bytes) :
    marks start (piece :: pieces) =
      (start + piece.length) :: marks (start + piece.length) pieces := by
  unfold marks
  rw [List.map_cons, List.scanl_cons, List.tail_cons]
  cases pieces <;> simp

theorem marks_ascend (start : Nat) (pieces : List Text.Bytes) :
    (start :: marks start pieces).Pairwise (· ≤ ·) := by
  induction pieces generalizing start with
  | nil => simp [marks]
  | cons piece pieces ih =>
    have hrest := ih (start + piece.length)
    rw [marks_cons]
    refine List.pairwise_cons.2 ⟨fun n hn => ?_, hrest⟩
    rcases List.mem_cons.1 hn with rfl | hn
    · exact Nat.le_add_right start _
    · exact (Nat.le_add_right start _).trans ((List.pairwise_cons.1 hrest).1 n hn)

theorem percent_mono (size : Nat) {m n : Nat} (h : m ≤ n) : percent size m ≤ percent size n := by
  have hdiv : 10 * m / size ≤ 10 * n / size := Nat.div_le_div_right (by omega)
  unfold percent
  omega

theorem ten_dvd_percent (size n : Nat) : 10 ∣ percent size n := by
  unfold percent
  omega

theorem percent_eq_decile (size n : Nat) : percent size n = decile n (some size) * 10 := by
  cases size with
  | zero => simp [percent, decile]
  | succ size =>
    simp only [percent, decile, Nat.mul_comm n 10]
    omega

section

variable {size before n : Nat} {marks : List Nat}

theorem milestones_sublist (size before : Nat) (marks : List Nat) :
    (milestones size before marks).Sublist marks := by
  induction marks generalizing before with
  | nil => exact List.Sublist.refl []
  | cons n marks ih =>
    rw [milestones]
    split_ifs
    · exact (ih n).cons_cons n
    · exact (ih n).cons n

theorem firstReaches_cons {mark : Nat} :
    FirstReaches size before (mark :: marks) n ↔
      n = mark ∧ percent size before < percent size mark ∨
        percent size before < percent size n ∧ FirstReaches size mark marks n := by
  constructor
  · rintro ⟨front, back, hsplit, hfront⟩
    obtain ⟨hbefore, hfront⟩ := List.forall_mem_cons.1 hfront
    cases front with
    | nil =>
      obtain ⟨rfl, -⟩ := List.cons.inj hsplit
      exact .inl ⟨rfl, hbefore⟩
    | cons first front =>
      obtain ⟨rfl, hmarks⟩ := List.cons.inj hsplit
      exact .inr ⟨hbefore, front, back, hmarks, hfront⟩
  · rintro (⟨rfl, hlt⟩ | ⟨hbefore, front, back, rfl, hfront⟩)
    · exact ⟨[], marks, rfl, by simpa using hlt⟩
    · exact ⟨mark :: front, back, rfl, List.forall_mem_cons.2 ⟨hbefore, hfront⟩⟩

-- it is enough to look at the mark before, since marks never go back
theorem mem_milestones_iff (h : (before :: marks).Pairwise (· ≤ ·)) :
    n ∈ milestones size before marks ↔ FirstReaches size before marks n := by
  induction marks generalizing before with
  | nil => simp [milestones, FirstReaches]
  | cons mark marks ih =>
    obtain ⟨hle, hmarks⟩ := List.pairwise_cons.1 h
    have hmark := percent_mono size (hle mark (by simp))
    have hlater : FirstReaches size mark marks n → percent size mark < percent size n :=
      fun ⟨_, _, _, hfront⟩ => hfront mark (by simp)
    rw [firstReaches_cons, ← ih hmarks, milestones]
    rw [← ih hmarks] at hlater
    split_ifs with hlt
    · rw [List.mem_cons]
      exact or_congr (by simp [hlt]) ⟨fun hn => ⟨hlt.trans (hlater hn), hn⟩, And.right⟩
    · refine ⟨fun hn => .inr ⟨hmark.trans_lt (hlater hn), hn⟩, ?_⟩
      rintro (⟨-, hlt'⟩ | ⟨-, hn⟩)
      · exact absurd hlt' hlt
      · exact hn

theorem milestones_increase (h : (before :: marks).Pairwise (· ≤ ·)) :
    (before :: milestones size before marks).Pairwise
      fun m n => percent size m < percent size n := by
  induction marks generalizing before with
  | nil => simp [milestones]
  | cons mark marks ih =>
    obtain ⟨hle, hmarks⟩ := List.pairwise_cons.1 h
    have hmark := percent_mono size (hle mark (by simp))
    have hrest := ih hmarks
    obtain ⟨hfirst, hothers⟩ := List.pairwise_cons.1 hrest
    rw [milestones]
    split_ifs with hlt
    · refine List.pairwise_cons.2 ⟨fun n hn => ?_, hrest⟩
      rcases List.mem_cons.1 hn with rfl | hn
      · exact hlt
      · exact hlt.trans (hfirst n hn)
    · exact List.pairwise_cons.2 ⟨fun n hn => hmark.trans_lt (hfirst n hn), hothers⟩

theorem percent_last_milestone (h : (before :: marks).Pairwise (· ≤ ·)) :
    percent size ((milestones size before marks).getLastD before) =
      percent size (marks.getLastD before) := by
  induction marks generalizing before with
  | nil => rfl
  | cons mark marks ih =>
    obtain ⟨hle, hmarks⟩ := List.pairwise_cons.1 h
    have hmark := percent_mono size (hle mark (by simp))
    rw [milestones, List.getLastD_cons, ← ih hmarks]
    split_ifs with hlt
    · rw [List.getLastD_cons]
    · have heq : percent size before = percent size mark := by omega
      cases milestones size mark marks with
      | nil => exact heq
      | cons n told => rfl

end

/-- Whether some marks are those of a transfer that are told: each brings more tens of the size than
there were before, and none that does is left out. -/
structure AreMilestones (size start : Nat) (marks told : List Nat) : Prop where
  sublist : told.Sublist marks
  tens (n : Nat) (hn : n ∈ told) : 10 ∣ percent size n
  increase : (start :: told).Pairwise fun m n => percent size m < percent size n
  first (n : Nat) : n ∈ told ↔ FirstReaches size start marks n
  last : percent size (told.getLastD start) = percent size (marks.getLastD start)

theorem areMilestones {size start : Nat} {marks : List Nat}
    (h : (start :: marks).Pairwise (· ≤ ·)) :
    AreMilestones size start marks (milestones size start marks) where
  sublist := milestones_sublist size start marks
  tens n _ := ten_dvd_percent size n
  increase := milestones_increase h
  first _ := mem_milestones_iff h
  last := percent_last_milestone h

/-! ### Records -/

/-- The records in which downloads tell what they do, those of troubles aside. -/
def told (records : List LogRecord) : List LogRecord :=
  records.filter fun r => r.level = .info ∧ r.logger = logger

theorem told_append (before records : List LogRecord) :
    told (before ++ records) = told before ++ told records :=
  List.filter_append before records

/-- Whether nothing is told while a step is taken. -/
def Untold {σ α : Type} (a : Act σ α) : Prop :=
  ∀ w, told (a.run w).records = []

theorem untold_request {σ : Type} {c : Http.Client σ} (h : ∀ r, Untold (c.send r))
    (r : Http.Request) : Untold (c.request r) := by
  suffices hfollow : ∀ left r, Untold (c.follow left r) by
    unfold Http.Client.request
    split
    · exact fun _ => rfl
    · exact hfollow _ _
  intro left
  induction left with
  | zero => exact fun r w => rfl
  | succ left ih =>
    intro r w
    have hsend := h r w
    rw [Http.Client.follow, Act.run_bind, told_append, hsend]
    cases ((c.send r).run w).result with
    | error e => rfl
    | ok response =>
      dsimp only
      split
      · rfl
      · rfl
      · rfl
      · exact ih _ _

def progressRecord (size n : Nat) : LogRecord :=
  ⟨.info, logger, s!"Download progress: {percent size n}% ({n}/{size} bytes)"⟩

theorem progressRecord_eq (size n : Nat) : progressRecord size n =
    ⟨.info, logger, s!"Download progress: {decile n (some size) * 10}% ({n}/{size} bytes)"⟩ := by
  rw [progressRecord, percent_eq_decile]

def progressRecords (total : Option Nat) (before : Nat) (marks : List Nat) : List LogRecord :=
  match total with
  | none => []
  | some size => (milestones size before marks).map (progressRecord size)

theorem progressRecords_nil (total : Option Nat) (before : Nat) :
    progressRecords total before [] = [] := by
  cases total <;> rfl

theorem progressRecords_cons (total : Option Nat) (before n : Nat) (marks : List Nat) :
    progressRecords total before (n :: marks) =
      progressRecords total before [n] ++ progressRecords total n marks := by
  cases total with
  | none => rfl
  | some size =>
    simp only [progressRecords, milestones]
    split_ifs <;> rfl

/-- What is recorded of a transfer to which a size has been announced, or none. -/
def Recorded (total : Option Nat) (start : Nat) (marks : List Nat)
    (records : List LogRecord) : Prop :=
  match total with
  | none => records = []
  | some size => ∃ told, AreMilestones size start marks told ∧
      records = told.map (progressRecord size)

theorem recorded_progressRecords (total : Option Nat) (start : Nat) (pieces : List Text.Bytes) :
    Recorded total start (marks start pieces)
      (progressRecords total start (marks start pieces)) := by
  cases total with
  | none => rfl
  | some size => exact ⟨_, areMilestones (marks_ascend start pieces), rfl⟩

/-! ### Reports -/

/-- What a report of progress is given, and how much is collected when it is made. -/
structure Report where
  written : Nat
  total : Option Nat
  held : Nat

variable {σ α : Type}

def watched (d : Downloader σ) (part : Path) : Downloader (Noted Report σ) where
  files := d.files.behind
  client := d.client.behind
  chunkSize := d.chunkSize
  progress written total := do
    let held ← d.files.behind.look fun t => t.held part
    Noted.noting ⟨written, total, held.length⟩ (d.progress written total)

theorem mirrored_watched (d : Downloader σ) (part : Path) : (d.watched part).Mirrored d :=
  ⟨rfl, rfl, fun r => Http.request_behind d.client r ▸ Noted.mirrors_silent _,
    fun _ _ _ => ⟨_, rfl⟩⟩

/-- Whether neither the web nor a report of progress writes what downloads tell. -/
structure Discreet (d : Downloader σ) : Prop where
  send (r : Http.Request) : Untold (d.client.send r)
  progress (written : Nat) (total : Option Nat) : Untold (d.progress written total)

/-- Whether a step reports each of some marks when just as much is collected, and records those with
more tens than there were before. -/
def Tells (total : Option Nat) (start : Nat) (marks : List Nat) (n : Noted Report σ)
    (a : Act (Noted Report σ) α) : Prop :=
  a.EndsWith n fun _ v records =>
    v.notes = n.notes ++ marks.map (fun m => ⟨m, total, m⟩) ∧
      Recorded total start marks (told records)

variable {d : Downloader σ} {t : FileTree} {part : Path} {here : List String} {c : Text.Bytes}
  {n : Noted Report σ}

theorem edit_watched (ha : d.Apart) (h : Holds t part here c (d.files.get n.world))
    (f : Text.Bytes → Text.Bytes) :
    ((d.watched part).files.update fun t => t.edit part f).EndsWith n fun result v records =>
      result = .ok () ∧ Holds t part here (f c) (d.files.get v.world) ∧
        v.notes = n.notes ∧ records = [] := by
  obtain ⟨t', hedit, ht'⟩ := h.edit f
  have hedit' : ((d.watched part).files.get n).edit part f = .ok t' := hedit
  rw [FileTree.Access.update, Act.EndsWith, Act.run, Act.ofWorld, hedit']
  refine ⟨rfl, ?_, rfl, rfl⟩
  have hget : d.files.get (d.files.set t' n.world) = t' := ha.get_set t' n.world
  exact hget.symm ▸ ht'

theorem progress_watched (ha : d.Apart) (hd : d.Discreet)
    (h : Holds t part here c (d.files.get n.world)) (written : Nat) (total : Option Nat) :
    ((d.watched part).progress written total).EndsWith n fun _ v records =>
      d.files.get v.world = d.files.get n.world ∧
        v.notes = n.notes ++ [⟨written, total, c.length⟩] ∧ told records = [] := by
  have hheld : (d.files.get n.world).held part = c := by
    rw [FileTree.held_of_locate h.located, h.content]
  refine ⟨ha.progress written total n.world, ?_, hd.progress written total n.world⟩
  show n.notes ++ [⟨written, total, ((d.files.get n.world).held part).length⟩] = _
  rw [hheld]

/-- One report: what has been written, and a record when it brings more tens than there were. -/
theorem report_watched (ha : d.Apart) (hd : d.Discreet)
    (h : Holds t part here c (d.files.get n.world)) (total : Option Nat) (before : Nat) :
    ((d.watched part).report c.length total (decile before total)).EndsWith n
      fun reached v records => reached = decile c.length total ∧
        d.files.get v.world = d.files.get n.world ∧
        v.notes = n.notes ++ [⟨c.length, total, c.length⟩] ∧
        told records = progressRecords total before [c.length] := by
  refine (progress_watched ha hd h c.length total).bind ?_
  rintro ⟨⟩ v records ⟨hfiles, hnotes, htold⟩
  cases total with
  | none => exact ⟨rfl, hfiles, hnotes, by rw [told_append, htold]; rfl⟩
  | some size =>
    have hdecile : decile before (some size) < decile c.length (some size) ↔
        percent size before < percent size c.length := by
      rw [percent_eq_decile, percent_eq_decile]
      omega
    dsimp only
    simp only [progressRecords, milestones]
    split_ifs with hlt hlt' hlt'
    · refine ⟨rfl, hfiles, hnotes, ?_⟩
      rw [told_append, htold, List.map_singleton, progressRecord_eq]
      rfl
    · exact absurd (hdecile.1 hlt) hlt'
    · exact absurd (hdecile.2 hlt') hlt
    · exact ⟨rfl, hfiles, hnotes, by rw [told_append, htold]; rfl⟩

theorem writePieces_watched (ha : d.Apart) (hd : d.Discreet) (total : Option Nat)
    (pieces : List Text.Bytes) (h : Holds t part here c (d.files.get n.world)) :
    ((d.watched part).writePieces part total c.length (decile c.length total) pieces).EndsWith n
      fun result v records => result = .ok () ∧
        v.notes = n.notes ++ (marks c.length pieces).map (fun m => ⟨m, total, m⟩) ∧
        told records = progressRecords total c.length (marks c.length pieces) := by
  induction pieces generalizing c n with
  | nil => exact ⟨rfl, (List.append_nil n.notes).symm, (progressRecords_nil total c.length).symm⟩
  | cons piece pieces ih =>
    have hlength : (c ++ piece).length = c.length + piece.length := List.length_append
    refine (edit_watched ha h (· ++ piece)).bind ?_
    rintro _ v _ ⟨rfl, hv, hnotes, rfl⟩
    have hreport := report_watched ha hd hv total c.length
    rw [hlength] at hreport
    refine hreport.bind ?_
    rintro _ u records ⟨rfl, hfiles, hnotes', htold⟩
    rw [← hfiles] at hv
    have hrest := ih hv
    rw [hlength] at hrest
    obtain ⟨hresult, hlater, htold'⟩ := hrest
    rw [marks_cons, progressRecords_cons, ← htold]
    refine ⟨hresult, ?_, ?_⟩
    · rw [hlater, hnotes', hnotes]
      simp
    · rw [List.nil_append, told_append, htold']

theorem writePieces_tells (ha : d.Apart) (hd : d.Discreet) (total : Option Nat)
    (pieces : List Text.Bytes) (h : Holds t part here c (d.files.get n.world)) :
    Tells total c.length (marks c.length pieces) n
      ((d.watched part).writePieces part total c.length (decile c.length total) pieces) := by
  obtain ⟨-, hnotes, htold⟩ := writePieces_watched ha hd total pieces h
  exact ⟨hnotes, htold ▸ recorded_progressRecords total c.length pieces⟩

/-- Steps that report nothing and tell nothing may stand in front and behind. -/
theorem Tells.behind {β : Type} {total : Option Nat} {start : Nat} {marks : List Nat}
    {a : Act (Noted Report σ) β} {f : β → Act (Noted Report σ) α}
    {p : β → Noted Report σ → List LogRecord → Prop} (h : a.EndsWith n p)
    (hf : ∀ x v records, p x v records →
      v.notes = n.notes ∧ told records = [] ∧ Tells total start marks v (f x)) :
    Tells total start marks n (a >>= f) := by
  refine Act.EndsWith.bind h fun x v before hx => ?_
  obtain ⟨hnotes, hnone, hreports, hrecorded⟩ := hf x v before hx
  refine ⟨hnotes ▸ hreports, ?_⟩
  rw [told_append, hnone]
  exact hrecorded

theorem Tells.before {β : Type} {total : Option Nat} {start : Nat} {marks : List Nat}
    {a : Act (Noted Report σ) β} {f : β → Act (Noted Report σ) α}
    (h : Tells total start marks n a)
    (hf : ∀ x v, (f x).EndsWith v fun _ u records => u.notes = v.notes ∧ told records = []) :
    Tells total start marks n (a >>= f) := by
  refine Act.EndsWith.bind h ?_
  rintro x v before ⟨hnotes, hrecorded⟩
  obtain ⟨hsame, hnone⟩ := hf x v
  refine ⟨hsame.trans hnotes, ?_⟩
  rw [told_append, hnone, List.append_nil]
  exact hrecorded

/-- How much there is when a response is received for a request that asked for the rest. -/
def startOf (offset : Nat) (r : Http.Response) : Nat :=
  if startsOver offset r then 0 else offset

theorem receive_tells (ha : d.Apart) (hd : d.Discreet) (url : String) (total : Option Nat)
    (r : Http.Response) (h : Holds t part here c (d.files.get n.world)) :
    Tells total (startOf c.length r) (marks (startOf c.length r) (r.body.pieces d.chunkSize)) n
      ((d.watched part).receive url part c.length total r) := by
  have hwarned (message : String) :
      (Act.log .warning logger message).EndsWith n fun _ v records =>
        v = n ∧ told records = [] := ⟨rfl, rfl⟩
  have hpieces (base : Text.Bytes) {v : Noted Report σ}
      (hv : Holds t part here base (d.files.get v.world)) :=
    writePieces_tells ha hd total (r.body.pieces d.chunkSize) hv
  unfold receive startOf
  dsimp only
  split_ifs with hrestart
  · refine .behind (hwarned _) ?_
    rintro _ v records ⟨rfl, hnone⟩
    refine ⟨rfl, hnone, .behind (edit_watched ha h fun _ => []) ?_⟩
    rintro _ v _ ⟨rfl, hv, hnotes, rfl⟩
    refine ⟨hnotes, rfl, (hpieces [] hv).before fun written v => ?_⟩
    rcases written with _ | ⟨⟩ <;> [skip; cases r.body.cut] <;> exact ⟨rfl, rfl⟩
  · refine .behind (edit_watched ha h (· ++ [])) ?_
    rintro _ v _ ⟨rfl, hv, hnotes, rfl⟩
    rw [List.append_nil] at hv
    refine ⟨hnotes, rfl, (hpieces c hv).before fun written v => ?_⟩
    rcases written with _ | ⟨⟩ <;> [skip; cases r.body.cut] <;> exact ⟨rfl, rfl⟩

theorem transfer_tells (ha : d.Apart) (hd : d.Discreet) {url : String} (total : Option Nat)
    {r : Http.Response} (h : Holds t part here c (d.files.get n.world))
    (hanswer : ((d.client.request { method := .get, url := url, offset := resumed c }).run
      n.world).result = .ok r)
    (hr : r.isError = false) :
    Tells total (startOf c.length r) (marks (startOf c.length r) (r.body.pieces d.chunkSize)) n
      ((d.watched part).transfer url part c.length total) := by
  have hrequest := Http.request_behind (ε := Report) d.client
    { method := .get, url := url, offset := resumed c }
  have hfiles : d.files.get ((d.client.request
      { method := .get, url := url, offset := resumed c }).run n.world).world =
        d.files.get n.world := Http.preserves_request ha.send _ n.world
  have hasked : (Noted.silent (d.client.request
      { method := .get, url := url, offset := resumed c })).EndsWith n fun answer v records =>
        answer = .ok r ∧ d.files.get v.world = d.files.get n.world ∧ v.notes = n.notes ∧
          told records = [] := ⟨hanswer, hfiles, rfl, untold_request hd.send _ n.world⟩
  rw [← hrequest] at hasked
  refine .behind hasked ?_
  rintro _ v records ⟨rfl, hv, hnotes, hnone⟩
  have hrange : ¬ (c.length ≠ 0 ∧ r.status = 416) := by
    rintro ⟨-, hstatus⟩
    simp [Http.Response.isError, hstatus] at hr
  refine ⟨hnotes, hnone, ?_⟩
  dsimp only
  rw [if_neg hrange, hr]
  exact receive_tells ha hd url total r (hv ▸ h)

/-- Pieces that are written into a file are each reported with all that is collected by then, and
those that bring more tens of the announced size than there were are recorded, whatever the pieces
are. So are the pieces of a transfer, which start at what was collected or, when it starts over, at
nothing; and taking notes of the reports changes nothing in a transfer. -/
theorem tells_pieces (ha : d.Apart) (hd : d.Discreet) (w : σ) (part : Path)
    (ht : (d.files.get w).Rooted) (hopen : ∃ t, (d.files.get w).append part [] = .ok t)
    (total : Option Nat) :
    let c := (d.files.get w).held part
    (∀ pieces, Tells total c.length (marks c.length pieces) ⟨w, []⟩
      ((d.watched part).writePieces part total c.length (decile c.length total) pieces)) ∧
    (∀ url r, ((d.client.request { method := .get, url := url, offset := resumed c }).run
        w).result = .ok r → r.isError = false →
      Tells total (startOf c.length r) (marks (startOf c.length r) (r.body.pieces d.chunkSize))
        ⟨w, []⟩ ((d.watched part).transfer url part c.length total)) ∧
    ∀ url, Noted.Mirrors ((d.watched part).transfer url part c.length total)
      (d.transfer url part c.length total) := by
  intro c
  obtain ⟨t, hedit⟩ := hopen
  obtain ⟨here, hlocate, hfree⟩ := FileTree.locate_of_edit hedit
  have h : Holds (d.files.get w) part here c (d.files.get w) :=
    ⟨ht, rfl, rfl, hlocate, hfree, (FileTree.held_of_locate hlocate).symm, fun _ _ => rfl⟩
  refine ⟨fun pieces => ?_, fun url r hanswer hr => ?_, fun url => ?_⟩
  · exact writePieces_tells (n := ⟨w, []⟩) ha hd total pieces h
  · exact transfer_tells (n := ⟨w, []⟩) ha hd total h hanswer hr
  · exact (mirrored_watched d part).transfer url part c.length total

/-- A transfer behind one byte that is collected, which brings more than the four that have been
announced. -/
theorem tells_pieces_overshot :
    let d := fromAnswers 2 (announcing "4") { status := 206, body := { bytes := [2, 3, 4, 5, 6] } }
    let part : Path := ⟨.absolute, ["m.part"]⟩
    Tells (some 4) 1 [3, 5, 6] ⟨(besideFile [7] [1], ()), []⟩
      ((d.watched part).transfer "https://localhost/m" part 1 (some 4)) := by
  intro d part
  have hdiscreet : d.Discreet := ⟨fun _ _ => rfl, fun _ _ _ => rfl⟩
  have hheld : (d.files.get (besideFile [7] [1], ())).held part = [1] := by decide +kernel
  have htold := (tells_pieces (d := d) (apart_fromAnswers ..) hdiscreet (besideFile [7] [1], ())
    part (rooted_besideFile [7] [1]) ⟨_, rfl⟩ (some 4)).2.1 "https://localhost/m"
    { status := 206, body := { bytes := [2, 3, 4, 5, 6] } }
  rw [hheld] at htold
  have hmarks : marks 1 (Http.Body.pieces 2 { bytes := [2, 3, 4, 5, 6] }) = [3, 5, 6] := by
    decide +kernel
  exact hmarks ▸ htold rfl rfl

example : milestones 4 1 [3, 5, 6] = [3, 5] := by
  decide

end ChatHost.Downloader
