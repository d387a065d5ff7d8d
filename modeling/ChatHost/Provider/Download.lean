import ChatHost.FileTree
import ChatHost.Http.Client
import ChatHost.Provider.Basic
import ChatHost.Reading

/-!
Downloading a model. The bytes go to a file beside the destination, which takes the destination's
place when the transfer is complete; a later download goes on where an earlier one broke off.
-/

namespace ChatHost

/-- What a download needs: the files, the way to the web, the size of the pieces in which it
writes, and what is told about the progress. -/
structure Downloader (σ : Type) where
  files : FileTree.Access σ
  client : Http.Client σ
  chunkSize : Nat := 1024 * 1024
  progress : Nat → Option Nat → Act σ Unit := fun _ _ => pure ()

namespace Downloader

def logger : String :=
  "providers.download"

def partPath? (destination : Path) : Option Path :=
  destination.name?.map fun name => destination.withName (name ++ ".part")

def failed {α : Type} (message : String) : Except (Failure ProviderError) α :=
  .error (.known ⟨.download, message⟩)

/-- The failure of a download at a failure of the client. That a URL cannot be one passes
through. -/
def interrupted (f : Http.Failure) (message : String) : Failure ProviderError :=
  if f.kind = .address then .fault (.outside .address f.message) else .known ⟨.download, message⟩

/-- Tenths of a size that have been written; ten from the size on, none of an unknown one. -/
def decile (written : Nat) (total : Option Nat) : Nat :=
  match total with
  | none | some 0 => 0
  | some t => min 10 (written * 10 / t)

/-- The size that a response announces, if it does and the size is positive. -/
def announcedSize (r : Http.Response) : Option Nat :=
  match (r.header? "content-length").map Reading.whole with
  | some (.ok n) => if 0 < n then some n.toNat else none
  | _ => none

def sizeWords (total : Option Nat) : String :=
  match total with
  | none => "unknown"
  | some t => toString t

def executable (mode : Nat) : Nat :=
  mode ||| 0o755

variable {σ : Type}

def probe (d : Downloader σ) (url : String) :
    Act σ (Except (Failure ProviderError) (Option Nat)) := do
  let unreachable (f : Http.Failure) : Except (Failure ProviderError) (Option Nat) :=
    .error (interrupted f s!"Unable to reach {url}: {f.message}")
  match ← d.client.request { method := .head, url := url } with
  | .error f => return unreachable f
  | .ok response =>
    match response.body.cut with
    | some f => return unreachable f
    | none =>
      if response.isError then
        Act.log .debug logger s!"HEAD {url} returned HTTP {response.status}; size unknown"
        return .ok none
      else return .ok (announcedSize response)

def collected (d : Downloader σ) (part : Path) : Act σ (Except (Failure ProviderError) Nat) := do
  match ← d.files.look fun t => t.stat part with
  | .ok node => return .ok node.size
  | .error e =>
    if e.number = 2 then return .ok 0
    else return failed s!"Unable to inspect {part.text}: {e.message}"

/-- Drops what has been collected when it is more than there is, and gives the offset at which the
transfer starts. -/
def settleOffset (d : Downloader σ) (part : Path) (offset : Nat) (total : Option Nat) :
    Act σ (Except (Failure ProviderError) Nat) := do
  match total with
  | none => return .ok offset
  | some size =>
    if offset ≤ size then return .ok offset
    else
      let reason := s!"is larger than the remote file ({offset} > {size}); restarting"
      Act.log .warning logger s!"Partial download {part.text} {reason}"
      match ← d.files.update fun t => t.write part [] with
      | .ok () => return .ok 0
      | .error e => return failed s!"Unable to reset {part.text}: {e.message}"

/-- Tells how far the transfer has come, and gives the decile that has been reached. -/
def report (d : Downloader σ) (written : Nat) (total : Option Nat) (reported : Nat) :
    Act σ Nat := do
  d.progress written total
  let current := decile written total
  match total with
  | some size =>
    if reported < current then
      Act.log .info logger s!"Download progress: {current * 10}% ({written}/{size} bytes)"
  | none => pure ()
  return current

def writePieces (d : Downloader σ) (part : Path) (total : Option Nat) :
    Nat → Nat → List Text.Bytes → Act σ (Except OsError Unit)
  | _, _, [] => return .ok ()
  | written, reported, piece :: pieces => do
    match ← d.files.update fun t => t.append part piece with
    | .error e => return .error e
    | .ok () =>
      let written := written + piece.length
      let reported ← d.report written total reported
      d.writePieces part total written reported pieces

def startsOver (offset : Nat) (r : Http.Response) : Bool :=
  offset ≠ 0 && r.status ≠ 206

/-- Writes the body of a response behind what has been collected, or in its place. -/
def receive (d : Downloader σ) (url : String) (part : Path) (offset : Nat) (total : Option Nat)
    (r : Http.Response) : Act σ (Except (Failure ProviderError) Unit) := do
  let restart := startsOver offset r
  if restart then
    Act.log .warning logger "Server ignored the range request; restarting download from byte 0"
  let opened ← d.files.update fun t => if restart then t.write part [] else t.append part []
  let offset := if restart then 0 else offset
  match opened with
  | .error e => return failed s!"Unable to write {part.text}: {e.message}"
  | .ok () =>
    match ← d.writePieces part total offset (decile offset total) (r.body.pieces d.chunkSize) with
    | .error e => return failed s!"Unable to write {part.text}: {e.message}"
    | .ok () =>
      match r.body.cut with
      | some f => return .error (interrupted f s!"Download of {url} interrupted: {f.message}")
      | none => return .ok ()

def transfer (d : Downloader σ) (url : String) (part : Path) (offset : Nat) (total : Option Nat) :
    Act σ (Except (Failure ProviderError) Unit) := do
  let asked := if offset = 0 then none else some offset
  match ← d.client.request { method := .get, url := url, offset := asked } with
  | .error f => return .error (interrupted f s!"Download of {url} interrupted: {f.message}")
  | .ok response =>
    if offset ≠ 0 ∧ response.status = 416 then
      Act.log .info logger
        s!"Server reports nothing left past byte {offset}; treating download as complete"
      return .ok ()
    else if response.isError then
      return failed s!"Download of {url} failed with HTTP {response.status}"
    else d.receive url part offset total response

/-- Puts the collected file in the destination's place, if this does not fail. -/
def install (part destination : Path) (t : FileTree) : Except OsError Unit × FileTree :=
  match t.move part destination with
  | .error e => (.error e, t)
  | .ok t =>
    match t.changeMode destination executable with
    | .error e => (.error e, t)
    | .ok t => (.ok (), t)

def finalize (d : Downloader σ) (part destination : Path) (total : Option Nat) :
    Act σ (Except (Failure ProviderError) Path) := do
  let refused (e : OsError) : Except (Failure ProviderError) Path :=
    failed s!"Unable to finalize {destination.text}: {e.message}"
  match ← d.files.look fun t => t.stat part with
  | .error e => return refused e
  | .ok node =>
    match total with
    | some size =>
      if node.size ≠ size then
        Act.log .warning logger
          s!"Downloaded size {node.size} does not match expected size {size}"
    | none => pure ()
    match ← d.files.within (.ofWorld (install part destination)) with
    | .error e => return refused e
    | .ok () =>
      Act.log .info logger s!"Model saved to {destination.text}"
      return .ok destination

/-- Collects what is at a URL, and gives its announced size. -/
def collect (d : Downloader σ) (url : String) (part destination : Path) :
    Act σ (Except (Failure ProviderError) (Option Nat)) :=
  (d.probe url).andThen fun total =>
  (d.collected part).andThen fun offset =>
  (d.settleOffset part offset total).andThen fun offset => do
    if total = some offset then
      Act.log .info logger
        s!"Partial download {part.text} already complete; skipping transfer"
      return .ok total
    else
      let progress := s!"(resume offset {offset}, total {sizeWords total})"
      Act.log .info logger s!"Downloading {url} to {destination.text} {progress}"
      match ← d.transfer url part offset total with
      | .error e => return .error e
      | .ok () => return .ok total

def download (d : Downloader σ) (url : String) (destination : Path) :
    Act σ (Except (Failure ProviderError) Path) := do
  match ← d.files.ensureDirectories destination.parent with
  | .error e =>
    return failed s!"Unable to create model directory {destination.parent.text}: {e.message}"
  | .ok () =>
    match partPath? destination with
    | none =>
      let shown := Text.quoted destination.text
      return .error (.fault (.invalid s!"PosixPath({shown}) has an empty name"))
    | some part =>
      (d.collect url part destination).andThen fun total =>
        d.finalize part destination total

end Downloader

end ChatHost
