import ChatHost.Proofs.Http.Exchange
import ChatHost.Provider.Download

set_option autoImplicit false

/-!
Downloads of whose exchanges with the web notes are taken. They come to the same, and leave the same
files and records, as where none are taken.
-/

namespace ChatHost

open Noted

variable {ε σ α : Type}

namespace FileTree.Access

def behind (a : Access σ) : Access (Noted ε σ) :=
  a.zoom Noted.world fun w n => { n with world := w }

theorem mirrors_look (a : Access σ) (f : FileTree → α) :
    Mirrors ((a.behind (ε := ε)).look f) (a.look f) :=
  fun n => ⟨n.notes, rfl⟩

theorem mirrors_update (a : Access σ) (f : FileTree → Except OsError FileTree) :
    Mirrors ((a.behind (ε := ε)).update f) (a.update f) := by
  intro n
  refine ⟨n.notes, ?_⟩
  simp only [update, Act.run, Act.ofWorld, behind, zoom]
  cases f (a.get n.world) <;> rfl

theorem mirrors_ensureDirectories (a : Access σ) (p : Path) :
    Mirrors ((a.behind (ε := ε)).ensureDirectories p) (a.ensureDirectories p) :=
  fun n => ⟨n.notes, rfl⟩

theorem mirrors_within (a : Access σ) (act : Act FileTree α) :
    Mirrors ((a.behind (ε := ε)).within act) (a.within act) :=
  fun n => ⟨n.notes, rfl⟩

end FileTree.Access

namespace Downloader

def noted (d : Downloader σ) : Downloader (Noted (Http.Exchange σ) σ) where
  files := d.files.behind
  client := d.client.noted
  chunkSize := d.chunkSize
  progress written total := Noted.silent (d.progress written total)

def exchanges (d : Downloader σ) (url : String) (destination : Path) (w : σ) :
    List (Http.Exchange σ) :=
  ((d.noted.download url destination).run ⟨w, []⟩).world.notes

/-- Whether a downloader does what another one does, but for the notes that it takes. -/
structure Mirrored (e : Downloader (Noted ε σ)) (d : Downloader σ) : Prop where
  files : e.files = d.files.behind
  chunkSize : e.chunkSize = d.chunkSize
  request (r : Http.Request) : Mirrors (e.client.request r) (d.client.request r)
  progress (written : Nat) (total : Option Nat) :
    Mirrors (e.progress written total) (d.progress written total)

theorem mirrored_noted (d : Downloader σ) : d.noted.Mirrored d :=
  ⟨rfl, rfl, Http.mirrors_request d.client, fun _ _ => mirrors_silent _⟩

namespace Mirrored

variable {d : Downloader σ} {e : Downloader (Noted ε σ)} (h : e.Mirrored d)
include h

theorem look (f : FileTree → α) : Mirrors (e.files.look f) (d.files.look f) :=
  h.files ▸ d.files.mirrors_look f

theorem update (f : FileTree → Except OsError FileTree) :
    Mirrors (e.files.update f) (d.files.update f) :=
  h.files ▸ d.files.mirrors_update f

theorem probe (url : String) : Mirrors (e.probe url) (d.probe url) := by
  refine (h.request _).bind fun answer => ?_
  cases answer with
  | error f => exact mirrors_pure _
  | ok r =>
    dsimp only
    split
    · exact mirrors_pure _
    · split
      · exact (mirrors_log _ _ _).bind fun _ => mirrors_pure _
      · exact mirrors_pure _

theorem collected (part : Path) : Mirrors (e.collected part) (d.collected part) := by
  refine (h.look _).bind fun found => ?_
  cases found with
  | ok node => exact mirrors_pure _
  | error e =>
    dsimp only
    split <;> exact mirrors_pure _

theorem settleOffset (part : Path) (offset : Nat) (total : Option Nat) :
    Mirrors (e.settleOffset part offset total) (d.settleOffset part offset total) := by
  cases total with
  | none => exact mirrors_pure _
  | some size =>
    simp only [Downloader.settleOffset]
    split
    · exact mirrors_pure _
    · refine (mirrors_log _ _ _).bind fun _ => (h.update _).bind fun written => ?_
      cases written <;> exact mirrors_pure _

theorem report (written : Nat) (total : Option Nat) (reported : Nat) :
    Mirrors (e.report written total reported) (d.report written total reported) := by
  refine (h.progress _ _).bind fun _ => ?_
  cases total with
  | none => exact (mirrors_pure _).bind fun _ => mirrors_pure _
  | some size =>
    dsimp only
    split
    · exact (mirrors_log _ _ _).bind fun _ => mirrors_pure _
    · exact (mirrors_pure _).bind fun _ => mirrors_pure _

theorem writePieces (part : Path) (total : Option Nat) (pieces : List Text.Bytes)
    (written reported : Nat) :
    Mirrors (e.writePieces part total written reported pieces)
      (d.writePieces part total written reported pieces) := by
  induction pieces generalizing written reported with
  | nil => exact mirrors_pure _
  | cons piece pieces ih =>
    refine (h.update _).bind fun added => ?_
    cases added with
    | error e => exact mirrors_pure _
    | ok => exact (h.report _ _ _).bind fun _ => ih _ _

theorem receive (url : String) (part : Path) (offset : Nat) (total : Option Nat)
    (r : Http.Response) :
    Mirrors (e.receive url part offset total r) (d.receive url part offset total r) := by
  unfold Downloader.receive
  dsimp only
  rw [h.chunkSize]
  split
  on_goal 1 => refine (mirrors_log _ _ _).bind fun _ => ?_
  all_goals
    refine (h.update _).bind fun opened => ?_
    cases opened with
    | error e => exact mirrors_pure _
    | ok =>
      refine (h.writePieces part total _ _ _).bind fun written => ?_
      cases written with
      | error e => exact mirrors_pure _
      | ok =>
        dsimp only
        split <;> exact mirrors_pure _

theorem transfer (url : String) (part : Path) (offset : Nat) (total : Option Nat) :
    Mirrors (e.transfer url part offset total) (d.transfer url part offset total) := by
  refine (h.request _).bind fun answer => ?_
  cases answer with
  | error f => exact mirrors_pure _
  | ok r =>
    dsimp only
    split
    · exact (mirrors_log _ _ _).bind fun _ => mirrors_pure _
    · split
      · exact mirrors_pure _
      · exact h.receive url part offset total r

theorem collect (url : String) (part destination : Path) :
    Mirrors (e.collect url part destination) (d.collect url part destination) := by
  refine (h.probe url).andThen fun total => (h.collected part).andThen fun offset =>
    (h.settleOffset part offset total).andThen fun offset => ?_
  split
  · exact (mirrors_log _ _ _).bind fun _ => mirrors_pure _
  · refine (mirrors_log _ _ _).bind fun _ => ?_
    refine (h.transfer url part offset total).bind fun transferred => ?_
    cases transferred <;> exact mirrors_pure _

theorem finalize (part destination : Path) (total : Option Nat) :
    Mirrors (e.finalize part destination total) (d.finalize part destination total) := by
  refine (h.look _).bind fun found => ?_
  cases found with
  | error e => exact mirrors_pure _
  | ok node =>
    have hinstall : Mirrors (e.files.within (.ofWorld (install part destination)))
        (d.files.within (.ofWorld (install part destination))) :=
      h.files ▸ d.files.mirrors_within _
    dsimp only
    split
    on_goal 1 => split
    on_goal 1 => refine (mirrors_log _ _ _).bind fun _ => ?_
    all_goals
      refine hinstall.bind fun installed => ?_
      cases installed with
      | error e => exact mirrors_pure _
      | ok => exact (mirrors_log _ _ _).bind fun _ => mirrors_pure _

/-- Taking notes changes nothing but the notes. -/
theorem download (url : String) (destination : Path) :
    Mirrors (e.download url destination) (d.download url destination) := by
  have hmade : Mirrors (e.files.ensureDirectories destination.parent)
      (d.files.ensureDirectories destination.parent) :=
    h.files ▸ d.files.mirrors_ensureDirectories _
  refine hmade.bind fun made => ?_
  cases made with
  | error e => exact mirrors_pure _
  | ok =>
    dsimp only
    split
    · exact mirrors_pure _
    · exact (h.collect _ _ _).andThen fun total => h.finalize _ _ total

end Mirrored

theorem run_noted_download (d : Downloader σ) (url : String) (destination : Path) (w : σ) :
    (d.noted.download url destination).run ⟨w, []⟩ =
      ⟨((d.download url destination).run w).result,
        ⟨((d.download url destination).run w).world, d.exchanges url destination w⟩,
        ((d.download url destination).run w).records⟩ := by
  obtain ⟨notes, hrun⟩ := d.mirrored_noted.download url destination ⟨w, []⟩
  rw [exchanges, hrun]

end Downloader

end ChatHost
