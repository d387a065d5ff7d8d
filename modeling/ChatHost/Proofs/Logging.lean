import ChatHost.Proofs.Act
import ChatHost.Proofs.FileTree.Directories
import ChatHost.Scripted.Logs

set_option autoImplicit false

/-!
Which handlers there are. A setup puts handlers of its own in the place of those of the setup before
and leaves those that other parts of a program have added; a setup that is refused leaves them all.
So whatever setups are tried and whatever handlers are added between them, the handlers are those of
others, in the order in which they came, and those of the last setup that took effect.
-/

namespace ChatHost.Logging

/-! ### Handlers and their numbers -/

def others (l : Logging) : List LogHandler :=
  l.handlers.filter fun h => !l.isInstalled h

def own (l : Logging) : List LogHandler :=
  l.handlers.filter l.isInstalled

variable {l : Logging} {h : LogHandler} {path : Path} {level : Level}
  {targets : List LogHandler.Target} {number bound : Nat}

theorem number_of_mem_handlersFor (hmem : h ∈ handlersFor level targets number) :
    number ≤ h.number := by
  obtain ⟨⟨target, i⟩, -, rfl⟩ := List.mem_map.1 hmem
  exact Nat.le_add_right _ _

/-- Whether numbers tell handlers of others, which are below a bound, from those of setups. -/
structure Parted (bound : Nat) (l : Logging) : Prop where
  others : ∀ h ∈ l.others, h.number < bound
  installed : ∀ k ∈ l.installed, bound ≤ k
  next : bound ≤ l.next

theorem isInstalled_eq_false (hinstalled : ∀ k ∈ l.installed, bound ≤ k) (hh : h.number < bound) :
    l.isInstalled h = false := by
  by_contra hi
  have hlow := hinstalled _ (List.contains_iff_mem.1 ((Bool.not_eq_false _).mp hi))
  omega

theorem install_handlers (path : Path) (level : Level) (targets : List LogHandler.Target)
    (l : Logging) :
    (l.install path level targets).handlers = l.others ++ handlersFor level targets l.next :=
  rfl

theorem isInstalled_install (hmem : h ∈ handlersFor level targets l.next) :
    (l.install path level targets).isInstalled h = true :=
  List.contains_iff_mem.2 (List.mem_map_of_mem hmem)

theorem Parted.installed_install (hl : l.Parted bound) :
    ∀ k ∈ (l.install path level targets).installed, bound ≤ k := by
  intro k hk
  obtain ⟨h, hmem, rfl⟩ := List.mem_map.1 hk
  exact Nat.le_trans hl.next (number_of_mem_handlersFor hmem)

theorem Parted.others_install (hl : l.Parted bound) :
    (l.install path level targets).others = l.others := by
  rw [Logging.others, install_handlers, List.filter_append, List.filter_eq_self.2,
    List.filter_eq_nil_iff.2, List.append_nil]
  · intro h hmem
    simp [isInstalled_install hmem]
  · intro h hmem
    simp [isInstalled_eq_false hl.installed_install (hl.others h hmem)]

theorem Parted.own_install (hl : l.Parted bound) :
    (l.install path level targets).own = handlersFor level targets l.next := by
  rw [own, install_handlers, List.filter_append, List.filter_eq_nil_iff.2, List.filter_eq_self.2,
    List.nil_append]
  · exact fun h hmem => isInstalled_install hmem
  · intro h hmem
    simp [isInstalled_eq_false hl.installed_install (hl.others h hmem)]

theorem Parted.install (hl : l.Parted bound) : (l.install path level targets).Parted bound where
  others := by
    rw [hl.others_install]
    exact hl.others
  installed := hl.installed_install
  next := Nat.le_trans hl.next (Nat.le_add_right _ _)

/-- Whether a handler of others is there shows in those of others alone. -/
theorem Parted.mem_numbers (hl : l.Parted bound) (hh : h.number < bound) :
    h.number ∈ l.handlers.map LogHandler.number ↔ h.number ∈ l.others.map LogHandler.number := by
  have hsubset : l.others ⊆ l.handlers := List.filter_subset_self _
  refine ⟨fun hmem => ?_, fun hmem => List.map_subset _ hsubset hmem⟩
  obtain ⟨k, hk, hnumber⟩ := List.mem_map.1 hmem
  have hother : l.isInstalled k = false := isInstalled_eq_false hl.installed (hnumber ▸ hh)
  exact List.mem_map.2 ⟨k, List.mem_filter.2 ⟨hk, by rw [hother, Bool.not_false]⟩, hnumber⟩

/-- The handlers of others after one more has been added; it is added once. -/
def joined (h : LogHandler) (others : List LogHandler) : List LogHandler :=
  if h.number ∈ others.map LogHandler.number then others else others ++ [h]

theorem of_mem_joined {k : LogHandler} {others : List LogHandler}
    (hmem : k ∈ joined h others) : k ∈ others ∨ k = h := by
  unfold joined at hmem
  split at hmem
  · exact .inl hmem
  · simpa using hmem

theorem attach_handlers (h : LogHandler) (l : Logging) :
    l.attach h = { l with handlers := joined h l.handlers } := by
  have hany : (l.handlers.any fun k => k.number = h.number) = true ↔
      h.number ∈ l.handlers.map LogHandler.number := by
    simp only [List.any_eq_true, decide_eq_true_eq, List.mem_map]
  unfold attach joined
  simp only [hany]
  split <;> rfl

theorem Parted.others_attach (hl : l.Parted bound) (hh : h.number < bound) :
    (l.attach h).others = joined h l.others := by
  have hnew : ([h].filter fun k => !l.isInstalled k) = [h] := by
    simp [isInstalled_eq_false hl.installed hh]
  have hkept : (l.attach h).others = (joined h l.handlers).filter fun k => !l.isInstalled k := by
    rw [attach_handlers]
    rfl
  rw [hkept]
  unfold joined
  simp only [← hl.mem_numbers hh]
  split
  · rfl
  · rw [List.filter_append, hnew]
    rfl

theorem Parted.own_attach (hl : l.Parted bound) (hh : h.number < bound) :
    (l.attach h).own = l.own := by
  have hnew : [h].filter l.isInstalled = [] := by simp [isInstalled_eq_false hl.installed hh]
  have hkept : (l.attach h).own = (joined h l.handlers).filter l.isInstalled := by
    rw [attach_handlers]
    rfl
  rw [hkept]
  unfold joined
  split
  · rfl
  · rw [List.filter_append, hnew, List.append_nil]
    rfl

theorem Parted.attach (hl : l.Parted bound) (hh : h.number < bound) :
    (l.attach h).Parted bound where
  others k hk := by
    rw [hl.others_attach hh] at hk
    rcases of_mem_joined hk with hmem | rfl
    · exact hl.others k hmem
    · exact hh
  installed := by
    rw [attach_handlers]
    exact hl.installed
  next := by
    rw [attach_handlers]
    exact hl.next

/-! ### What a setup can come to -/

namespace Outlet

variable {σ : Type} {o : Outlet σ}

/-- Whether how logging is set up is kept apart from the files, the console and the clock. -/
structure Apart (o : Outlet σ) : Prop where
  get_set (l : Logging) (w : σ) : o.get (o.set l w) = l
  get_files (t : FileTree) (w : σ) : o.get (o.files.set t w) = o.get w
  files_files (t : FileTree) (w : σ) : o.files.get (o.files.set t w) = t
  now : o.now.Preserves o.get
  console (line : String) : (o.console line).Preserves o.get

/-- Whether what is observed of the world stays as it is when records are written. -/
structure Spares {γ : Type} (o : Outlet σ) (f : σ → γ) : Prop where
  files (t : FileTree) (w : σ) : f (o.files.set t w) = f w
  now : o.now.Preserves f
  console (line : String) : (o.console line).Preserves f

section

variable {γ : Type} {f : σ → γ}

theorem Spares.preserves_deliver (ho : o.Spares f) (level : Level) (line : String)
    (handlers : List LogHandler) : (o.deliver level line handlers).Preserves f := by
  induction handlers with
  | nil => exact Act.preserves_pure ()
  | cons h handlers ih =>
    have hfiles (g : LogFile) : (o.files.within (.modify (g.write line))).Preserves f :=
      fun w => ho.files _ w
    unfold deliver
    split
    · split
      · exact ih
      · exact (ho.console line).bind fun _ => ih
      · exact (hfiles _).bind fun _ => ih
    · exact ih

theorem Spares.preserves_emit (ho : o.Spares f) (level : Level) (name message : String) :
    (o.emit level name message).Preserves f := by
  refine .bind (fun _ => rfl) fun logging => ?_
  split
  · exact ho.now.bind fun time => ho.preserves_deliver _ _ _
  · exact Act.preserves_pure ()

theorem Spares.preserves_emitAll (ho : o.Spares f) (records : List LogRecord) :
    (o.emitAll records).Preserves f := by
  induction records with
  | nil => exact Act.preserves_pure ()
  | cons r records ih => exact (ho.preserves_emit _ _ _).bind fun _ => ih

end

theorem Apart.preserves_emitAll (ho : o.Apart) (records : List LogRecord) :
    (o.emitAll records).Preserves o.get :=
  Spares.preserves_emitAll ⟨ho.get_files, ho.now, ho.console⟩ records

theorem path_of_logFileOf {s : Settings} {p : Path} {file : LogFile}
    (h : logFileOf s p = .ok file) : file.path = p := by
  unfold logFileOf at h
  cases hlimit : Settings.number (s .logMaxBytes) with
  | error f => simp [hlimit, bind, Except.bind] at h
  | ok limit =>
    rw [hlimit] at h
    exact (Except.ok.inj h) ▸ rfl

/-- Opening a log file leaves how logging is set up as it is, and gives the file with the path as
seen from the root. -/
theorem Apart.openFile_ends (ho : o.Apart) (s : Settings) (p : Path) (w : σ) :
    (o.openFile s p).Ends w fun result v => o.get v = o.get w ∧
      ∀ file, result = .ok file → file.path = absolute (o.files.get w).start p := by
  have hensure : (o.files.ensureDirectories p.parent).Ends w fun _ v =>
      o.get v = o.get w ∧ (o.files.get v).start = (o.files.get w).start := by
    rw [FileTree.Access.ensureDirectories, Act.ends_ofWorld, ho.get_files, ho.files_files]
    exact ⟨rfl, (FileTree.ensureDirectories_adds _ _).start⟩
  refine hensure.bind ?_
  rintro (e | ⟨⟩) v ⟨hget, hstart⟩
  · exact ⟨hget, nofun⟩
  refine Act.Ends.bind (p := fun start u => start = (o.files.get w).start ∧ u = v)
    ⟨hstart, rfl⟩ ?_
  rintro start u ⟨rfl, rfl⟩
  cases hfile : logFileOf s (absolute (o.files.get w).start p) with
  | error f => exact ⟨hget, nofun⟩
  | ok file =>
    have hopened : (o.files.update fun t => t.append file.path []).Ends u fun _ v =>
        o.get v = o.get u := by
      rw [FileTree.Access.update, Act.ends_ofWorld]
      split
      · exact ho.get_files _ u
      · rfl
    refine hopened.bind ?_
    rintro (e | ⟨⟩) v hv
    · exact ⟨hv.trans hget, nofun⟩
    · refine ⟨hv.trans hget, fun opened hresult => ?_⟩
      rw [← Except.ok.inj hresult]
      exact path_of_logFileOf hfile

/-- Sets logging up and writes the records that this leaves. -/
def settle (o : Outlet σ) (homes : Path.Homes) (s : Settings) (r : Request) :
    Act σ (Except Fault Path) :=
  o.logged (o.setup homes s r)

theorem settle_of_active {homes : Path.Homes} {s : Settings} {r : Request} {w : σ} {dir : Path}
    (hdir : s.logDir.expand? homes = some dir)
    (hactive : (o.get w).active = some (dir.child fileName, r.level s)) (hforce : r.force = false) :
    (o.settle homes s r).run w = ⟨.ok (dir.child fileName), w, []⟩ := by
  have hkept : (decide ((o.get w).active = some (dir.child fileName, r.level s)) && !r.force) =
      true := by simp [hactive, hforce]
  have hread : (Act.read fun w => (o.get w).active).run w = ⟨(o.get w).active, w, []⟩ := rfl
  have hsetup : (o.setup homes s r).run w = ⟨.ok (dir.child fileName), w, []⟩ := by
    simp only [setup, hdir, Act.run_bind, hread, hkept, if_true]
    rfl
  have hlogged : (o.settle homes s r).run w = { (o.setup homes s r).run w with
      world := ((o.emitAll ((o.setup homes s r).run w).records).run
        ((o.setup homes s r).run w).world).world } := rfl
  rw [hlogged, hsetup]
  rfl

def targetsFor (file : LogFile) (console : Bool) : List LogHandler.Target :=
  .file file :: if console then [.console] else []

/-- What a setup comes to: its result, and how logging is set up after it. -/
inductive Settles (o : Outlet σ) (homes : Path.Homes) (s : Settings) (r : Request) (w : σ) :
    Except Fault Path → Logging → Prop where
  | refused (f : Fault) : o.Settles homes s r w (.error f) (o.get w)
  | kept {dir : Path} (hdir : s.logDir.expand? homes = some dir)
    (hactive : (o.get w).active = some (dir.child fileName, r.level s)) (hforce : r.force = false) :
    o.Settles homes s r w (.ok (dir.child fileName)) (o.get w)
  | renewed {dir : Path} (hdir : s.logDir.expand? homes = some dir)
    (hchanged : (o.get w).active = some (dir.child fileName, r.level s) → r.force = true)
    (file : LogFile) (hfile : file.path = absolute (o.files.get w).start (dir.child fileName)) :
    o.Settles homes s r w (.ok (dir.child fileName))
      ((o.get w).install (dir.child fileName) (r.level s) (targetsFor file r.console))

theorem Settles.unchanged {homes : Path.Homes} {s : Settings} {r : Request} {w : σ} {f : Fault}
    {l : Logging} (h : o.Settles homes s r w (.error f) l) : l = o.get w := by
  cases h
  rfl

theorem Settles.path_active {homes : Path.Homes} {s : Settings} {r : Request} {w : σ} {path : Path}
    {l : Logging} (h : o.Settles homes s r w (.ok path) l) : l.path? = some path := by
  cases h with
  | kept hdir hactive hforce => simp [Logging.path?, hactive]
  | renewed hdir hchanged file hfile => rfl

theorem Apart.setup_settles (ho : o.Apart) (homes : Path.Homes) (s : Settings) (r : Request)
    (w : σ) :
    (o.setup homes s r).Ends w fun result v => o.Settles homes s r w result (o.get v) := by
  unfold setup
  cases hdir : s.logDir.expand? homes with
  | none => exact .refused .noHome
  | some dir =>
    refine Act.Ends.bind (p := fun active v => active = (o.get w).active ∧ v = w) ⟨rfl, rfl⟩ ?_
    rintro _ v ⟨rfl, rfl⟩
    split
    · rename_i hsame
      obtain ⟨hactive, hforce⟩ : (o.get v).active = some (dir.child fileName, r.level s) ∧
          r.force = false := by simpa using hsame
      exact .kept hdir hactive hforce
    · rename_i hother
      have hchanged : (o.get v).active = some (dir.child fileName, r.level s) → r.force = true :=
        by simpa using hother
      refine (ho.openFile_ends s (dir.child fileName) v).bind ?_
      rintro (f | file) u ⟨hu, hfile⟩
      · have hrefused : o.Settles homes s r v (.error f) (o.get u) := hu ▸ .refused f
        exact hrefused
      · have hset : (Act.modify fun w => o.set ((o.get w).install (dir.child fileName)
            (r.level s) (targetsFor file r.console)) w).Ends u fun _ x => o.get x =
              (o.get v).install (dir.child fileName) (r.level s) (targetsFor file r.console) := by
          rw [← hu]
          exact ho.get_set _ u
        refine hset.bind fun _ x hx => ?_
        refine Act.Ends.bind (p := fun _ y => y = x) rfl ?_
        rintro _ y rfl
        rw [Act.ends_pure, hx]
        exact .renewed hdir hchanged file (hfile file rfl)

theorem Apart.settle_settles (ho : o.Apart) (homes : Path.Homes) (s : Settings) (r : Request)
    (w : σ) :
    (o.settle homes s r).Ends w fun result v => o.Settles homes s r w result (o.get v) := by
  have hlater : o.get ((o.settle homes s r).run w).world =
      o.get ((o.setup homes s r).run w).world := ho.preserves_emitAll _ _
  rw [Act.Ends, hlater]
  exact ho.setup_settles homes s r w

end Outlet

/-! ### Courses of setups -/

/-- What the last setup that took effect has settled. -/
structure Arrangement where
  /-- The place at which relative paths started. -/
  start : List String
  path : Path
  level : Level
  console : Bool
  deriving DecidableEq

/-- Whether handlers are those of an arrangement: one for the log file, and one for the console if
it is wanted. -/
def Arrangement.Has (a : Arrangement) (handlers : List LogHandler) : Prop :=
  ∃ file number, file.path = absolute a.start a.path ∧
    handlers = ⟨number, a.level, .file file⟩ ::
      if a.console then [⟨number + 1, a.level, .console⟩] else []

/-- What has come to logging in some course of events. -/
structure Story where
  /-- The handlers that other parts have added, in the order in which they came. -/
  others : List LogHandler := []
  last : Option Arrangement := none
  deriving DecidableEq

namespace Story

def active (story : Story) : Option (Path × Level) :=
  story.last.map fun a => (a.path, a.level)

/-- Whether logging is set up as a story tells. -/
structure Fits (story : Story) (l : Logging) : Prop where
  others : l.others = story.others
  installed : l.own.map LogHandler.number = l.installed
  active : l.active = story.active
  level : l.level = story.last.elim Level.warning Arrangement.level
  own : story.last.elim (l.own = []) fun a => a.Has l.own

end Story

variable {σ : Type}

inductive Event (σ : Type) where
  | setup (homes : Path.Homes) (s : Settings) (r : Request)
  /-- Another part adds a handler. -/
  | join (h : LogHandler)
  | elsewhere (change : σ → σ)

namespace Event

def run (o : Outlet σ) (e : Event σ) (w : σ) : σ :=
  match e with
  | .setup homes s r => ((o.settle homes s r).run w).world
  | .join h => o.set ((o.get w).attach h) w
  | .elsewhere change => change w

/-- Whether handlers of others have numbers below those of setups, and what happens elsewhere leaves
how logging is set up as it is. -/
def Fair (o : Outlet σ) (bound : Nat) : Event σ → Prop
  | .setup .. => True
  | .join h => h.number < bound
  | .elsewhere change => ∀ w, o.get (change w) = o.get w

end Event

namespace Story

def tell (o : Outlet σ) (w : σ) (story : Story) : Event σ → Story
  | .setup homes s r =>
    match ((o.settle homes s r).run w).result with
    | .error _ => story
    | .ok path =>
      if story.active = some (path, r.level s) ∧ r.force = false then story
      else { story with last := some ⟨(o.files.get w).start, path, r.level s, r.console⟩ }
  | .join h => { story with others := joined h story.others }
  | .elsewhere _ => story

def follow (o : Outlet σ) : Story → σ → List (Event σ) → Story × σ
  | story, w, [] => (story, w)
  | story, w, e :: events => follow o (story.tell o w e) (e.run o w) events

theorem fits_start (bound : Nat) : Fits {} { next := bound } where
  others := rfl
  installed := rfl
  active := rfl
  level := rfl
  own := rfl

end Story

theorem parted_start (bound : Nat) : Parted bound { next := bound } where
  others := nofun
  installed := nofun
  next := Nat.le_refl bound

theorem own_of_targetsFor (a : Arrangement) (file : LogFile)
    (hfile : file.path = absolute a.start a.path) (number : Nat) :
    a.Has (handlersFor a.level (Outlet.targetsFor file a.console) number) := by
  refine ⟨file, number, hfile, ?_⟩
  unfold Outlet.targetsFor
  split <;> rfl

namespace Story

variable {story : Story} {o : Outlet σ} {l : Logging} {bound : Nat}

theorem Fits.install (h : story.Fits l) (hl : l.Parted bound) (a : Arrangement) (file : LogFile)
    (hfile : file.path = absolute a.start a.path) :
    Fits { story with last := some a }
      (l.install a.path a.level (Outlet.targetsFor file a.console)) where
  others := hl.others_install.trans h.others
  installed := congrArg _ hl.own_install
  active := rfl
  level := rfl
  own := by
    rw [hl.own_install]
    exact own_of_targetsFor a file hfile l.next

theorem Fits.attach (h : story.Fits l) (hl : l.Parted bound) {k : LogHandler}
    (hk : k.number < bound) :
    Fits { story with others := joined k story.others } (l.attach k) where
  others := by rw [hl.others_attach hk, h.others]
  installed := by
    rw [hl.own_attach hk, attach_handlers]
    exact h.installed
  active := by
    rw [attach_handlers]
    exact h.active
  level := by
    rw [attach_handlers]
    exact h.level
  own := by
    rw [hl.own_attach hk]
    exact h.own

/-- Every event keeps logging in step with the story. -/
theorem Fits.step (ho : o.Apart) {w : σ} (h : story.Fits (o.get w)) (hl : (o.get w).Parted bound)
    (e : Event σ) (he : e.Fair o bound) :
    (story.tell o w e).Fits (o.get (e.run o w)) ∧ (o.get (e.run o w)).Parted bound := by
  cases e with
  | elsewhere change =>
    rw [Event.run, he w]
    exact ⟨h, hl⟩
  | join k =>
    rw [Event.run, ho.get_set]
    exact ⟨h.attach hl he, hl.attach he⟩
  | setup homes s r =>
    have hends := ho.settle_settles homes s r w
    unfold tell Event.run
    unfold Act.Ends at hends
    dsimp only at hends ⊢
    generalize ((o.settle homes s r).run w).result = result at hends ⊢
    generalize o.get ((o.settle homes s r).run w).world = after at hends ⊢
    cases hends with
    | refused f => exact ⟨h, hl⟩
    | kept hdir hactive hforce =>
      dsimp only
      rw [if_pos ⟨h.active ▸ hactive, hforce⟩]
      exact ⟨h, hl⟩
    | @renewed dir hdir hchanged file hfile =>
      have hnew : ¬ (story.active = some (dir.child fileName, r.level s) ∧ r.force = false) := by
        rintro ⟨hactive, hforce⟩
        simp [hchanged (h.active.trans hactive)] at hforce
      dsimp only
      rw [if_neg hnew]
      exact ⟨h.install hl ⟨_, _, _, _⟩ file hfile, hl.install⟩

theorem Fits.follow (ho : o.Apart) {w : σ} (h : story.Fits (o.get w))
    (hl : (o.get w).Parted bound) (events : List (Event σ))
    (hevents : ∀ e ∈ events, e.Fair o bound) :
    (story.follow o w events).1.Fits (o.get (story.follow o w events).2) := by
  induction events generalizing story w with
  | nil => exact h
  | cons e events ih =>
    obtain ⟨he, hlater⟩ := List.forall_mem_cons.1 hevents
    obtain ⟨hstep, hparted⟩ := h.step ho hl e he
    exact ih hstep hparted hlater

end Story

/-- After any course of events logging is set up as their story tells: the handlers are those of
others, in the order in which they came, and those recorded as installed, which are the ones of the
last setup that took effect. One more setup changes nothing of this when it is refused, and nothing
at all when it asks for what is active and does not force it. -/
theorem handlers_of_events {o : Outlet σ} (ho : o.Apart) (bound : Nat) (w : σ)
    (hw : o.get w = { next := bound }) (events : List (Event σ))
    (hevents : ∀ e ∈ events, e.Fair o bound) :
    let (story, v) := Story.follow o {} w events
    story.Fits (o.get v) ∧ ∀ homes s r,
      (∀ f, ((o.settle homes s r).run v).result = .error f →
        o.get ((o.settle homes s r).run v).world = o.get v) ∧
      (∀ path, ((o.settle homes s r).run v).result = .ok path →
        (o.get ((o.settle homes s r).run v).world).path? = some path) ∧
      ∀ dir, s.logDir.expand? homes = some dir →
        (o.get v).active = some (dir.child fileName, r.level s) → r.force = false →
        (o.settle homes s r).run v = ⟨.ok (dir.child fileName), v, []⟩ := by
  have hfits := Story.Fits.follow (w := w) ho (hw ▸ Story.fits_start bound)
    (hw ▸ parted_start bound) events hevents
  generalize Story.follow o {} w events = followed at hfits ⊢
  obtain ⟨story, v⟩ := followed
  refine ⟨hfits, fun homes s r => ?_⟩
  have hends : o.Settles homes s r v ((o.settle homes s r).run v).result
      (o.get ((o.settle homes s r).run v).world) := ho.settle_settles homes s r v
  refine ⟨fun f hf => ?_, fun path hpath => ?_, fun dir hdir hactive hforce => ?_⟩
  · rw [hf] at hends
    exact hends.unchanged
  · rw [hpath] at hends
    exact hends.path_active
  · exact Outlet.settle_of_active hdir hactive hforce

open Scripted

theorem Outlet.Apart.scripted : LogWorld.outlet.Apart where
  get_set _ _ := rfl
  get_files _ _ := rfl
  files_files _ _ := rfl
  now _ := rfl
  console _ _ := rfl

/-- Two handlers of others, a setup that makes its directories, one below a file, one for a home
that is not known, and the first one again without the console. -/
theorem handlers_of_events_tried :
    let homes := Path.Homes.of ⟨.absolute, ["home"]⟩
    let first := Settings.standard ⟨.absolute, ["data"]⟩
    let blocked := Settings.standard ⟨.absolute, ["note"]⟩
    let unknown := Settings.standard ⟨.relative, ["~nobody"]⟩
    let log : Path := ⟨.absolute, ["data", ".blessnet", "logs", "llm_driver.log"]⟩
    let start : LogWorld :=
      { files := { nodes := [(["note"], .file [] 0o644)] }, logging := { next := 2 } }
    let events : List (Event LogWorld) :=
      [.join ⟨0, 0, .nowhere⟩, .setup homes first {}, .setup homes blocked { debug := true },
        .join ⟨1, 30, .console⟩, .setup homes unknown {},
        .setup homes first { console := false, force := true }]
    let (_, v) := Story.follow LogWorld.outlet {} start events
    let l := LogWorld.outlet.get v
    (l.others = [⟨0, 0, .nowhere⟩, ⟨1, 30, .console⟩] ∧ l.active = some (log, Level.info) ∧
      l.level = Level.info ∧ Arrangement.Has ⟨[], log, Level.info, false⟩ l.own) ∧
      (LogWorld.outlet.settle homes first {}).run v = ⟨.ok log, v, []⟩ := by
  intro homes first blocked unknown log start events
  have htold : (Story.follow LogWorld.outlet {} start events).1 =
      ⟨[⟨0, 0, .nowhere⟩, ⟨1, 30, .console⟩], some ⟨[], log, Level.info, false⟩⟩ := by
    decide +kernel
  have hevents := handlers_of_events .scripted 2 start rfl events (by
    simp [events, Event.Fair])
  generalize Story.follow LogWorld.outlet {} start events = followed at htold hevents ⊢
  obtain ⟨story, v⟩ := followed
  obtain ⟨hfits, hlater⟩ := hevents
  obtain rfl : story = _ := htold
  have hactive : (LogWorld.outlet.get v).active = some (log, Level.info) := hfits.active
  refine ⟨⟨hfits.others, hactive, hfits.level, hfits.own⟩, ?_⟩
  obtain ⟨-, -, hsame⟩ := hlater homes first {}
  exact hsame ⟨.absolute, ["data", ".blessnet", "logs"]⟩ rfl hactive rfl

end ChatHost.Logging
