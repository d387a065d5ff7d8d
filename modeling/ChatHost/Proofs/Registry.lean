import ChatHost.Log
import ChatHost.Proofs.OrderedMap
import ChatHost.Registry
import Mathlib.Data.List.Induction

set_option autoImplicit false

/-!
Registries in use. An insertion may be asked for as a whole or in its two steps, with other requests
between them. What has happened to a registry says which handles have been given out and what is
under each of them.
-/

namespace ChatHost.Registry

variable {σ α β : Type}

inductive Event (α : Type) where
  | issued (h : Handle)
  /-- An insertion has put a value under its handle. -/
  | stored (h : Handle) (a : α)
  | removed (h : Handle)
  /-- A closure that changes values in some way has been passed for a handle. -/
  | changed (h : Handle) (f : α → α)

inductive Request (σ α β : Type) where
  | generate
  /-- The first step of an insertion. -/
  | take (a : α)
  /-- The second step of the insertion that has taken a handle. -/
  | store (h : Handle)
  | insert (a : α)
  | remove (h : Handle)
  | get (h : Handle)
  | contains (h : Handle)
  /-- Runs a closure, which may act on the outside world and change the value. -/
  | use (h : Handle) (f : α → Act σ (β × α))
  | handles

inductive Answer (α β : Type) where
  | handle (result : Except Fault Handle)
  | value (found : Option α)
  | told (present : Bool)
  | answered (answer : Option β)
  | listed (hs : List Handle)
  | nothing

def Answer.isAbsence : Answer α β → Prop
  | .value found => found = none
  | .told present => present = false
  | .answered answer => answer = none
  | .handle _ | .listed _ | .nothing => False

def Request.handle? : Request σ α β → Option Handle
  | .remove h | .get h | .contains h | .use h _ => some h
  | _ => none

/-- Whether a request asks for a handle that has not been given out. -/
def Request.counts : Request σ α β → Bool
  | .generate | .take _ | .insert _ => true
  | _ => false

/-- A registry, the insertions between their two steps, and all that has happened. -/
structure Usage (σ α : Type) where
  world : σ
  registry : Registry α := {}
  begun : OrderedMap Handle α := []
  history : List (Event α) := []

def issues : Except Fault Handle → List (Event α)
  | .ok h => [.issued h]
  | .error _ => []

def Event.issued? : Event α → Option Handle
  | .issued h => some h
  | _ => none

def Event.stored? : Event α → Option Handle
  | .stored h _ => some h
  | _ => none

def Event.change? (h : Handle) : Event α → Option (α → α)
  | .changed k f => if k = h then some f else none
  | _ => none

/-- A value after the changes that some events have made under a handle, in their order. -/
def changedBy (h : Handle) (events : List (Event α)) (a : α) : α :=
  (events.filterMap (Event.change? h)).foldl (fun v f => f v) a

namespace Usage

/-- The handles that have been given out, in the order in which they were. -/
def issued (u : Usage σ α) : List Handle :=
  u.history.filterMap Event.issued?

def stored (u : Usage σ α) : List Handle :=
  u.history.filterMap Event.stored?

def count (u : Usage σ α) : Usage σ α :=
  { u with registry := u.registry.take.2, history := u.history ++ issues u.registry.take.1 }

def step (u : Usage σ α) : Request σ α β → Answer α β × Usage σ α
  | .generate => (.handle u.registry.take.1, u.count)
  | .take a =>
    match u.registry.take.1 with
    | .ok h => (.handle (.ok h), { u.count with begun := OrderedMap.put h a u.begun })
    | .error f => (.handle (.error f), u.count)
  | .store h =>
    match OrderedMap.get? u.begun h with
    | none => (.nothing, u)
    | some a =>
      (.handle (.ok h), { u with
        registry := u.registry.store h a
        begun := OrderedMap.erase u.begun h
        history := u.history ++ [.stored h a] })
  | .insert a =>
    match u.registry.insert a with
    | (.ok h, r) =>
      (.handle (.ok h), { u with
        registry := r, history := u.history ++ [.issued h] ++ [.stored h a] })
    | (.error f, r) => (.handle (.error f), { u with registry := r })
  | .remove h =>
    (.value (u.registry.remove h).1, { u with
      registry := (u.registry.remove h).2, history := u.history ++ [.removed h] })
  | .get h => (.value (u.registry.get? h), u)
  | .contains h => (.told (u.registry.contains h), u)
  | .use h f =>
    let out := u.registry.change h fun a =>
      let ran := (f a).run u.world
      ((ran.result.1, ran.world), ran.result.2)
    (.answered (out.1.map Prod.fst), { u with
      world := (out.1.map Prod.snd).getD u.world
      registry := out.2
      history := u.history ++ [.changed h fun a => ((f a).run u.world).result.2] })
  | .handles => (.listed u.registry.handles, u)

def run (u : Usage σ α) (requests : List (Request σ α β)) : Usage σ α :=
  requests.foldl (fun u q => (u.step q).2) u

end Usage

/-- What an event leaves under a handle, given what was there before it. -/
def Event.leaves (h : Handle) (found : Option α) : Event α → Option α
  | .issued _ => found
  | .stored k a => if k = h then some a else found
  | .removed k => if k = h then none else found
  | .changed k f => if k = h then found.map f else found

def current (h : Handle) (events : List (Event α)) : Option α :=
  events.foldl (Event.leaves h) none

theorem current_concat (h : Handle) (events : List (Event α)) (e : Event α) :
    current h (events ++ [e]) = e.leaves h (current h events) := by
  rw [current, List.foldl_append]
  rfl

theorem changedBy_append (h : Handle) (before after : List (Event α)) (a : α) :
    changedBy h (before ++ after) a = changedBy h after (changedBy h before a) := by
  rw [changedBy, List.filterMap_append, List.foldl_append]
  rfl

theorem changedBy_singleton (h : Handle) (e : Event α) :
    changedBy h [e] = (e.change? h).getD id := by
  funext a
  cases he : e.change? h <;> simp [changedBy, he]

/-- An event that puts nothing under a handle and removes nothing from it only changes what is
there. -/
theorem leaves_eq_map {h : Handle} {e : Event α} (hstored : ∀ a, e ≠ .stored h a)
    (hremoved : e ≠ .removed h) (found : Option α) :
    e.leaves h found = found.map (changedBy h [e]) := by
  rw [changedBy_singleton]
  cases e with
  | issued k => simp [Event.leaves, Event.change?]
  | stored k a =>
    have hk : k ≠ h := fun hk => hstored a (by rw [hk])
    simp [Event.leaves, Event.change?, hk]
  | removed k =>
    have hk : k ≠ h := fun hk => hremoved (by rw [hk])
    simp [Event.leaves, Event.change?, hk]
  | changed k f => by_cases hk : k = h <;> simp [Event.leaves, Event.change?, hk]

theorem foldl_leaves {h : Handle} {events : List (Event α)} (hstored : ∀ a, .stored h a ∉ events)
    (hremoved : .removed h ∉ events) (found : Option α) :
    events.foldl (Event.leaves h) found = found.map (changedBy h events) := by
  induction events generalizing found with
  | nil => cases found <;> rfl
  | cons e events ih =>
    have hleaves : e.leaves h found = found.map (changedBy h [e]) := by
      apply leaves_eq_map
      · exact fun a he => hstored a (he ▸ List.mem_cons_self)
      · exact fun he => hremoved (he ▸ List.mem_cons_self)
    have ih := ih (fun a ha => hstored a (List.mem_cons_of_mem _ ha))
      (fun hr => hremoved (List.mem_cons_of_mem _ hr))
    rw [List.foldl_cons, ih, hleaves, Option.map_map]
    exact congrArg (found.map ·) (funext fun a => (changedBy_append h [e] events a).symm)

/-- What is under a handle under which a value has been put at most once. -/
theorem current_eq_some {h : Handle} {events : List (Event α)}
    (hevents : (events.filterMap Event.stored?).Nodup) {a : α} :
    current h events = some a ↔ ∃ before first after, events = before ++ .stored h first :: after ∧
      .removed h ∉ after ∧ a = changedBy h after first := by
  constructor
  · intro ha
    induction events using List.reverseRecOn generalizing a with
    | nil => simp [current] at ha
    | append_singleton events e ih =>
      rw [List.filterMap_append, List.nodup_append] at hevents
      rw [current_concat] at ha
      by_cases hlast : ∃ b, e = .stored h b
      · obtain ⟨b, rfl⟩ := hlast
        obtain rfl : b = a := by simpa [Event.leaves] using ha
        exact ⟨events, b, [], rfl, by simp, rfl⟩
      · by_cases hremoved : e = .removed h
        · simp [hremoved, Event.leaves] at ha
        · rw [leaves_eq_map (fun b hb => hlast ⟨b, hb⟩) hremoved, Option.map_eq_some_iff] at ha
          obtain ⟨b, hb, rfl⟩ := ha
          obtain ⟨before, first, after, rfl, hafter, rfl⟩ := ih hevents.1 hb
          refine ⟨before, first, after ++ [e], by simp, ?_, ?_⟩
          · simp [hafter, Ne.symm hremoved]
          · exact (changedBy_append h after [e] first).symm
  · rintro ⟨before, first, after, rfl, hremoved, rfl⟩
    have hstored : ∀ b, .stored h b ∉ after := by
      intro b hb
      rw [List.filterMap_append, List.nodup_append] at hevents
      exact (List.nodup_cons.1 hevents.2.1).1 (List.mem_filterMap.2 ⟨_, hb, rfl⟩)
    rw [current, List.foldl_append, List.foldl_cons, foldl_leaves hstored hremoved]
    simp [Event.leaves]

theorem get?_store (r : Registry α) (k h : Handle) (a : α) :
    (r.store k a).get? h = if h = k then some a else r.get? h :=
  OrderedMap.get?_put _ _ _ _

theorem get?_remove (r : Registry α) (k h : Handle) :
    (r.remove k).2.get? h = if h = k then none else r.get? h :=
  OrderedMap.get?_erase _ _ _

theorem get?_change (r : Registry α) (k h : Handle) (f : α → β × α) :
    (r.change k f).2.get? h = if h = k then (r.get? h).map fun a => (f a).2 else r.get? h := by
  cases hk : r.get? k with
  | none =>
    simp only [change, hk]
    split_ifs with hh
    · rw [hh, hk, Option.map_none]
    · rfl
  | some a =>
    simp only [change, hk, get?_store]
    split_ifs with hh
    · rw [hh, hk, Option.map_some]
    · rfl

theorem next_change (r : Registry α) (k : Handle) (f : α → β × α) :
    (r.change k f).2.next = r.next := by
  unfold change
  split <;> rfl

theorem mem_handles (r : Registry α) (h : Handle) : h ∈ r.handles ↔ (r.get? h).isSome := by
  rw [handles, List.mem_mergeSort, Option.isSome_iff_ne_none, ne_eq, get?, OrderedMap.get?_eq_none,
    not_not]

theorem take_of_le {r : Registry α} (h : r.next ≤ lastHandle) :
    r.take = (.ok (r.next : Handle), { r with next := r.next + 1 }) := by
  rw [take, if_pos h]

theorem take_of_lt {r : Registry α} (h : lastHandle < r.next) :
    r.take = (.error .handlesExhausted, { r with next := r.next + 1 }) := by
  rw [take, if_neg (Nat.not_le.2 h)]

theorem insert_of_ok {r : Registry α} {h : Handle} (htake : r.take.1 = .ok h) (a : α) :
    r.insert a = (.ok h, r.take.2.store h a) := by
  unfold insert
  split
  · rename_i k s hk
    rw [hk] at htake ⊢
    rw [Except.ok.inj htake]
  · rename_i f s hf
    rw [hf] at htake
    cases htake

theorem insert_of_error {r : Registry α} {f : Fault} (htake : r.take.1 = .error f) (a : α) :
    r.insert a = (.error f, r.take.2) := by
  unfold insert
  split
  · rename_i k s hk
    rw [hk] at htake
    cases htake
  · rename_i g s hg
    rw [hg] at htake ⊢
    rw [Except.error.inj htake]

theorem next_insert (r : Registry α) (a : α) : (r.insert a).2.next = r.next + 1 := by
  unfold insert take
  split_ifs <;> rfl

theorem result_insert (r : Registry α) (a : α) :
    (r.insert a).1 =
      if r.next ≤ lastHandle then .ok (r.next : Handle) else .error .handlesExhausted := by
  unfold insert take
  split_ifs <;> rfl

theorem get?_insert (r : Registry α) (a : α) (h : Handle) :
    (r.insert a).2.get? h =
      if r.next ≤ lastHandle ∧ h = (r.next : Handle) then some a else r.get? h := by
  by_cases hle : r.next ≤ lastHandle
  · have hinsert := insert_of_ok (congrArg Prod.fst (take_of_le hle)) a
    rw [hinsert, take_of_le hle, get?_store]
    simp only [hle, true_and]
    rfl
  · have htake := take_of_lt (Nat.lt_of_not_le hle)
    rw [insert_of_error (congrArg Prod.fst htake) a, htake]
    simp only [hle, false_and, if_false]
    rfl

theorem remove_of_absent {r : Registry α} {h : Handle} (habsent : r.get? h = none) :
    r.remove h = (none, r) := by
  rw [remove, habsent, OrderedMap.erase_of_not_mem (OrderedMap.get?_eq_none.1 habsent)]

theorem change_of_absent {r : Registry α} {h : Handle} (habsent : r.get? h = none)
    (f : α → β × α) : r.change h f = (none, r) := by
  simp only [change, habsent]

def firstHandles (n : Nat) : List Handle :=
  (List.range n).map fun k => ((k + 1 : Nat) : Int)

theorem firstHandles_succ (n : Nat) :
    firstHandles (n + 1) = firstHandles n ++ [((n + 1 : Nat) : Int)] := by
  rw [firstHandles, List.range_succ, List.map_append]
  rfl

theorem mem_firstHandles {n : Nat} {h : Int} : h ∈ firstHandles n ↔ 1 ≤ h ∧ h ≤ n := by
  rw [firstHandles, List.mem_map]
  constructor
  · rintro ⟨k, hk, rfl⟩
    rw [List.mem_range] at hk
    omega
  · rintro ⟨hpos, hle⟩
    exact ⟨(h - 1).toNat, List.mem_range.2 (by omega), by omega⟩

theorem firstHandles_pairwise (n : Nat) : (firstHandles n).Pairwise (· < ·) := by
  refine List.Pairwise.map _ ?_ List.pairwise_lt_range
  intro i j hij
  exact Int.ofNat_lt.2 (Nat.succ_lt_succ hij)

namespace Usage

/-- The invariant of registries in use. -/
structure Sound (u : Usage σ α) : Prop where
  next : 1 ≤ u.registry.next
  issued : u.issued = firstHandles (min (u.registry.next - 1) lastHandle)
  begun : ∀ h a, OrderedMap.get? u.begun h = some a → h ∈ u.issued ∧ h ∉ u.stored
  known : ∀ h ∈ u.stored, h ∈ u.issued
  once : u.stored.Nodup
  cells : ∀ h, u.registry.get? h = current h u.history

variable {u v : Usage σ α}

theorem sound_fresh (w : σ) : Sound ({ world := w } : Usage σ α) where
  next := Nat.le_refl 1
  issued := rfl
  begun h a ha := by simp [OrderedMap.get?] at ha
  known h hh := by simp [stored] at hh
  once := List.nodup_nil
  cells h := rfl

theorem issued_concat {e : Event α} (h : v.history = u.history ++ [e]) :
    v.issued = u.issued ++ e.issued?.toList := by
  rw [issued, h, List.filterMap_append]
  cases he : e.issued? <;> simp [issued, he]

theorem stored_concat {e : Event α} (h : v.history = u.history ++ [e]) :
    v.stored = u.stored ++ e.stored?.toList := by
  rw [stored, h, List.filterMap_append]
  cases he : e.stored? <;> simp [stored, he]

theorem Sound.concat {e : Event α} (hu : u.Sound) (hhistory : v.history = u.history ++ [e])
    (hnext : 1 ≤ v.registry.next)
    (hissued : v.issued = firstHandles (min (v.registry.next - 1) lastHandle))
    (hstored : ∀ h, e.stored? = some h → h ∈ u.issued ∧ h ∉ u.stored)
    (hbegun : ∀ h a, OrderedMap.get? v.begun h = some a →
      OrderedMap.get? u.begun h = some a ∧ e.stored? ≠ some h)
    (hcells : ∀ h, v.registry.get? h = e.leaves h (u.registry.get? h)) : v.Sound where
  next := hnext
  issued := hissued
  begun h a ha := by
    obtain ⟨hold, hne⟩ := hbegun h a ha
    obtain ⟨hi, hs⟩ := hu.begun h a hold
    rw [issued_concat hhistory, stored_concat hhistory]
    exact ⟨List.mem_append_left _ hi, by simp [hs, hne]⟩
  known h hh := by
    rw [stored_concat hhistory, List.mem_append, Option.mem_toList] at hh
    rw [issued_concat hhistory]
    refine List.mem_append_left _ ?_
    rcases hh with hh | hh
    · exact hu.known h hh
    · exact (hstored h hh).1
  once := by
    rw [stored_concat hhistory, List.nodup_append]
    refine ⟨hu.once, by cases e.stored? <;> simp, ?_⟩
    intro h hh k hk
    rintro rfl
    exact (hstored h (Option.mem_toList.1 hk)).2 hh
  cells h := by
    rw [hcells, hhistory, current_concat, hu.cells]

theorem Sound.concat_of_unissued {e : Event α} (hu : u.Sound)
    (hhistory : v.history = u.history ++ [e]) (hnext : v.registry.next = u.registry.next)
    (hissued : e.issued? = none) (hstored : ∀ h, e.stored? = some h → h ∈ u.issued ∧ h ∉ u.stored)
    (hbegun : ∀ h a, OrderedMap.get? v.begun h = some a →
      OrderedMap.get? u.begun h = some a ∧ e.stored? ≠ some h)
    (hcells : ∀ h, v.registry.get? h = e.leaves h (u.registry.get? h)) : v.Sound := by
  refine hu.concat hhistory (hnext ▸ hu.next) ?_ hstored hbegun hcells
  rw [issued_concat hhistory, hissued, hnext, hu.issued]
  exact List.append_nil _

theorem Sound.count (hu : u.Sound) : u.count.Sound := by
  have hpos := hu.next
  by_cases hle : u.registry.next ≤ lastHandle
  · have htake := take_of_le hle
    have hhistory : u.count.history = u.history ++ [.issued u.registry.next] := by
      rw [Usage.count, htake]
      rfl
    have hnext : u.count.registry.next = u.registry.next + 1 := by rw [Usage.count, htake]
    refine hu.concat hhistory (by omega) ?_ (by simp [Event.stored?])
      (fun h a ha => ⟨ha, by simp [Event.stored?]⟩) (fun h => ?_)
    · have hmin : min (u.registry.next - 1) lastHandle + 1 = u.registry.next := by omega
      rw [issued_concat hhistory, hu.issued, hnext, Nat.add_sub_cancel, Nat.min_eq_left hle]
      rw [← hmin, firstHandles_succ, hmin]
      rfl
    · rw [Usage.count, htake]
      rfl
  · -- past the last handle the counter goes on, and no handle is given out
    have hlt := Nat.lt_of_not_le hle
    have htake := take_of_lt hlt
    have hcount : u.count =
        { u with registry := { u.registry with next := u.registry.next + 1 } } := by
      rw [Usage.count, htake]
      simp [issues]
    rw [hcount]
    refine ⟨Nat.le_add_left 1 _, ?_, hu.begun, hu.known, hu.once, hu.cells⟩
    have hmin : min (u.registry.next + 1 - 1) lastHandle =
        min (u.registry.next - 1) lastHandle := by
      omega
    change u.issued = firstHandles (min (u.registry.next + 1 - 1) lastHandle)
    rw [hmin, hu.issued]

/-- A handle that is given out next has not been given out before. -/
theorem Sound.fresh (hu : u.Sound) {h : Handle} (htake : u.registry.take.1 = .ok h) :
    h ∉ u.issued ∧ h ∈ u.count.issued := by
  by_cases hle : u.registry.next ≤ lastHandle
  · rw [take_of_le hle] at htake
    obtain rfl := Except.ok.inj htake
    have hpos := hu.next
    constructor
    · rw [hu.issued, mem_firstHandles]
      omega
    · have hnext : u.count.registry.next = u.registry.next + 1 := by
        rw [Usage.count, take_of_le hle]
      rw [hu.count.issued, mem_firstHandles, hnext]
      omega
  · rw [take_of_lt (Nat.lt_of_not_le hle)] at htake
    cases htake

theorem stored_count (u : Usage σ α) : u.count.stored = u.stored := by
  rw [stored, Usage.count, List.filterMap_append]
  cases u.registry.take.1 <;> simp [issues, stored, Event.stored?]

theorem Sound.take (hu : u.Sound) {h : Handle} (htake : u.registry.take.1 = .ok h) (a : α) :
    Sound { u.count with begun := OrderedMap.put h a u.begun } where
  next := hu.count.next
  issued := hu.count.issued
  begun k b hk := by
    change k ∈ u.count.issued ∧ k ∉ u.count.stored
    rw [OrderedMap.get?_put] at hk
    split_ifs at hk with hkh
    · obtain ⟨hold, hnew⟩ := hu.fresh htake
      rw [hkh, stored_count]
      exact ⟨hnew, fun hs => hold (hu.known h hs)⟩
    · exact hu.count.begun k b hk
  known := hu.count.known
  once := hu.count.once
  cells := hu.count.cells

theorem Sound.store (hu : u.Sound) {h : Handle} {a : α} {begun : OrderedMap Handle α}
    (hissued : h ∈ u.issued) (hstored : h ∉ u.stored)
    (hbegun : ∀ k b, OrderedMap.get? begun k = some b →
      OrderedMap.get? u.begun k = some b ∧ h ≠ k) :
    Sound { u with
      registry := u.registry.store h a
      begun := begun
      history := u.history ++ [.stored h a] } := by
  refine hu.concat_of_unissued rfl rfl rfl ?_ ?_ ?_
  · intro k hk
    obtain rfl := Option.some.inj hk
    exact ⟨hissued, hstored⟩
  · intro k b hk
    exact ⟨(hbegun k b hk).1, fun he => (hbegun k b hk).2 (Option.some.inj he)⟩
  · intro k
    simp only [get?_store, Event.leaves, eq_comm]

theorem Sound.insert (hu : u.Sound) {h : Handle} (htake : u.registry.take.1 = .ok h) (a : α) :
    Sound { u with
      registry := u.registry.take.2.store h a
      history := u.history ++ [.issued h] ++ [.stored h a] } := by
  obtain ⟨hold, hnew⟩ := hu.fresh htake
  have hcount : u.count =
      { u with registry := u.registry.take.2, history := u.history ++ [.issued h] } := by
    rw [Usage.count, htake]
    rfl
  have hstored : h ∉ u.count.stored := by
    rw [stored_count]
    exact fun hs => hold (hu.known h hs)
  have hbegun (k : Handle) (b : α) (hk : OrderedMap.get? u.begun k = some b) :
      OrderedMap.get? u.count.begun k = some b ∧ h ≠ k :=
    ⟨hk, fun he => hold (he ▸ (hu.begun k b hk).1)⟩
  -- with nothing in between, the two steps of an insertion are one request
  have hinsert := hu.count.store (a := a) hnew hstored hbegun
  rw [hcount] at hinsert
  exact hinsert

/-- Every request keeps the invariant. -/
theorem Sound.step (hu : u.Sound) (q : Request σ α β) : (u.step q).2.Sound := by
  cases q with
  | generate => exact hu.count
  | take a =>
    simp only [Usage.step]
    split
    · rename_i h htake
      exact hu.take htake a
    · exact hu.count
  | store h =>
    simp only [Usage.step]
    split
    · exact hu
    · rename_i a ha
      obtain ⟨hissued, hstored⟩ := hu.begun h a ha
      refine hu.store hissued hstored fun k b hk => ?_
      rw [OrderedMap.get?_erase] at hk
      split_ifs at hk with hkh
      exact ⟨hk, Ne.symm hkh⟩
  | insert a =>
    cases htake : u.registry.take.1 with
    | ok h =>
      simp only [Usage.step, insert_of_ok htake]
      exact hu.insert htake a
    | error f =>
      have hcount : u.count = { u with registry := u.registry.take.2 } := by
        rw [Usage.count, htake]
        simp [issues]
      simp only [Usage.step, insert_of_error htake]
      exact hcount ▸ hu.count
  | remove h =>
    refine hu.concat_of_unissued (e := .removed h) rfl rfl rfl (by simp [Event.stored?])
      (fun k b hk => ⟨hk, by simp [Event.stored?]⟩) fun k => ?_
    simp only [get?_remove, Event.leaves, eq_comm, Usage.step]
  | get h => exact hu
  | contains h => exact hu
  | use h f =>
    refine hu.concat_of_unissued rfl (next_change _ _ _) rfl (by simp [Event.stored?])
      (fun k b hk => ⟨hk, by simp [Event.stored?]⟩) fun k => ?_
    simp only [Usage.step, get?_change, Event.leaves, eq_comm]
  | handles => exact hu

theorem Sound.run (hu : u.Sound) (requests : List (Request σ α β)) : (u.run requests).Sound := by
  induction requests generalizing u with
  | nil => exact hu
  | cons q requests ih => exact ih (hu.step q)

theorem next_step (u : Usage σ α) (q : Request σ α β) :
    (u.step q).2.registry.next = u.registry.next + if q.counts then 1 else 0 := by
  have hcount : u.registry.take.2.next = u.registry.next + 1 := rfl
  cases q with
  | generate => exact hcount
  | take a =>
    simp only [step]
    split <;> exact hcount
  | store h =>
    simp only [step]
    split <;> rfl
  | insert a =>
    cases htake : u.registry.take.1 with
    | ok h =>
      simp only [step, insert_of_ok htake]
      exact hcount
    | error f =>
      simp only [step, insert_of_error htake]
      exact hcount
  | use h f => exact next_change _ _ _
  | remove h | get h | contains h | handles => rfl

theorem next_run (u : Usage σ α) (requests : List (Request σ α β)) :
    (u.run requests).registry.next = u.registry.next + requests.countP Request.counts := by
  induction requests generalizing u with
  | nil => rfl
  | cons q requests ih =>
    have hrun : u.run (q :: requests) = (u.step q).2.run requests := rfl
    rw [hrun, ih, next_step, List.countP_cons]
    omega

theorem step_of_absent {q : Request σ α β} {h : Handle} (hq : q.handle? = some h)
    (habsent : u.registry.get? h = none) :
    (u.step q).1.isAbsence ∧ (u.step q).2.registry = u.registry ∧ (u.step q).2.world = u.world := by
  cases q with
  | generate | take a | store k | insert a | handles => cases hq
  | remove k =>
    obtain rfl := Option.some.inj hq
    simp [step, remove_of_absent habsent, Answer.isAbsence]
  | get k =>
    obtain rfl := Option.some.inj hq
    simp [step, habsent, Answer.isAbsence]
  | contains k =>
    obtain rfl := Option.some.inj hq
    have hhas : u.registry.contains k = (u.registry.get? k).isSome := rfl
    simp [step, hhas, habsent, Answer.isAbsence]
  | use k f =>
    obtain rfl := Option.some.inj hq
    simp [step, change_of_absent habsent, Answer.isAbsence]

theorem step_of_exhausted {q : Request σ α β} (hq : q.counts)
    (hlast : lastHandle < u.registry.next) :
    (u.step q).1 = .handle (.error .handlesExhausted) ∧
      (u.step q).2.registry.cells = u.registry.cells ∧ (u.step q).2.history = u.history := by
  have htake := take_of_lt hlast
  cases q with
  | generate => simp [step, count, htake, issues]
  | take a => simp [step, count, htake, issues]
  | insert a => simp [step, insert_of_error (congrArg Prod.fst htake), htake]
  | store k | remove k | get k | contains k | use k f | handles => cases hq

/-- However a registry is used from the beginning on, handles are given out in ascending order and
up to the last one. Under a handle there is what an insertion has put there, until it is removed,
with all changes since then. A request for a handle under which there is nothing does nothing; a
request for a new handle when the last one has been given out fails, and leaves the values alone. -/
theorem usage_of_requests (w : σ) (requests : List (Request σ α β)) :
    let u := run { world := w } requests
    u.issued = firstHandles (min (requests.countP Request.counts) lastHandle) ∧
    (u.issued.Pairwise (· < ·) ∧ ∀ h ∈ u.issued, 1 ≤ h ∧ h ≤ lastHandle) ∧
    (∀ h, h ∈ u.registry.handles ↔ ∃ before a after,
      u.history = before ++ .stored h a :: after ∧ .removed h ∉ after) ∧
    (∀ h a, u.registry.get? h = some a ↔ ∃ before first after,
      u.history = before ++ .stored h first :: after ∧ .removed h ∉ after ∧
        a = changedBy h after first) ∧
    (∀ (q : Request σ α β) h, q.handle? = some h → h ∉ u.registry.handles →
      (u.step q).1.isAbsence ∧ (u.step q).2.registry = u.registry ∧
        (u.step q).2.world = u.world) ∧
    ((lastHandle : Handle) ∈ u.issued → ∀ q : Request σ α β, q.counts →
      (u.step q).1 = .handle (.error .handlesExhausted) ∧
        (u.step q).2.registry.cells = u.registry.cells ∧ (u.step q).2.history = u.history) := by
  intro u
  have hu : u.Sound := (sound_fresh w).run requests
  have hvalue : ∀ h a, u.registry.get? h = some a ↔ ∃ before first after,
      u.history = before ++ .stored h first :: after ∧ .removed h ∉ after ∧
        a = changedBy h after first := by
    intro h a
    rw [hu.cells]
    exact current_eq_some hu.once
  refine ⟨?_, ⟨?_, fun h hh => ?_⟩, fun h => ?_, hvalue, fun q h hq habsent => ?_,
    fun hlast q hq => ?_⟩
  · have hnext : u.registry.next = 1 + requests.countP Request.counts := next_run _ requests
    rw [hu.issued, hnext, Nat.add_sub_cancel_left]
  · rw [hu.issued]
    exact firstHandles_pairwise _
  · rw [hu.issued, mem_firstHandles] at hh
    exact ⟨hh.1, Int.le_trans hh.2 (Int.ofNat_le.2 (Nat.min_le_right _ _))⟩
  · rw [mem_handles, Option.isSome_iff_exists]
    constructor
    · rintro ⟨a, ha⟩
      obtain ⟨before, first, after, hhistory, hremoved, -⟩ := (hvalue h a).1 ha
      exact ⟨before, first, after, hhistory, hremoved⟩
    · rintro ⟨before, first, after, hhistory, hremoved⟩
      exact ⟨_, (hvalue h _).2 ⟨before, first, after, hhistory, hremoved, rfl⟩⟩
  · rw [mem_handles, Option.not_isSome_iff_eq_none] at habsent
    exact step_of_absent hq habsent
  · rw [hu.issued, mem_firstHandles] at hlast
    have hpositive : 0 < lastHandle := by decide
    exact step_of_exhausted hq (by omega)

end Usage

end ChatHost.Registry
