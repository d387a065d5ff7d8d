import ChatHost.OrderedMap
import Mathlib.Data.List.Induction
import Mathlib.Tactic.SplitIfs

set_option autoImplicit false

/-!
What is found in an ordered map after it has been written to.
-/

namespace ChatHost.OrderedMap

variable {κ α : Type} [BEq κ] [LawfulBEq κ] [DecidableEq κ]

theorem get?_cons (m : OrderedMap κ α) (j k : κ) (v : α) :
    get? ((j, v) :: m) k = if k = j then some v else get? m k := by
  by_cases h : k = j
  · subst h
    simp [get?]
  · have hb : (k == j) = false := by simpa using h
    simp [get?, List.lookup_cons, hb, h]

theorem get?_put (m : OrderedMap κ α) (j k : κ) (v : α) :
    get? (put j v m) k = if k = j then some v else get? m k := by
  induction m with
  | nil => rw [put, get?_cons]
  | cons entry m ih =>
    obtain ⟨i, w⟩ := entry
    by_cases hi : i = j
    · subst hi
      simp only [put, BEq.rfl, ↓reduceIte, get?_cons]
      split_ifs <;> rfl
    · have hb : (i == j) = false := by simpa using hi
      simp only [put, hb, Bool.false_eq_true, ↓reduceIte, get?_cons, ih]
      split_ifs with hk hj
      · exact absurd (hk.symm.trans hj) hi
      · rfl
      · rfl
      · rfl

theorem get?_erase (m : OrderedMap κ α) (j k : κ) :
    get? (erase m j) k = if k = j then none else get? m k := by
  induction m with
  | nil => simp [erase, get?]
  | cons entry m ih =>
    obtain ⟨i, w⟩ := entry
    have hcons : erase ((i, w) :: m) j = if i = j then erase m j else (i, w) :: erase m j := by
      by_cases hi : i = j
      · simp [erase, hi]
      · have hb : (i == j) = false := by simpa using hi
        simp [erase, hb, hi]
    rw [hcons]
    split_ifs with hi hk hk
    · rw [ih, if_pos hk]
    · rw [ih, if_neg hk, get?_cons, if_neg (hi ▸ hk)]
    · rw [get?_cons, ih, if_pos hk, if_neg (fun h => hi (h.symm.trans hk))]
    · rw [get?_cons, get?_cons, ih, if_neg hk]

omit [DecidableEq κ] in
theorem erase_of_not_mem {m : OrderedMap κ α} {k : κ} (h : k ∉ keys m) : erase m k = m := by
  refine List.filter_eq_self.2 fun entry hentry => ?_
  have hne : entry.1 ≠ k := fun he => h (List.mem_map.2 ⟨entry, hentry, he⟩)
  simpa using hne

theorem get?_filter (m : OrderedMap κ α) (p : κ → Bool) (k : κ) :
    get? (m.filter fun entry => p entry.1) k = if p k then get? m k else none := by
  induction m with
  | nil => simp [get?]
  | cons entry m ih =>
    obtain ⟨i, w⟩ := entry
    by_cases hi : p i
    · rw [List.filter_cons, if_pos hi, get?_cons, get?_cons, ih]
      by_cases hk : k = i
      · rw [if_pos hk, if_pos hk, if_pos (hk ▸ hi)]
      · rw [if_neg hk, if_neg hk]
    · rw [List.filter_cons, if_neg hi, get?_cons, ih]
      by_cases hk : k = i
      · rw [if_neg (hk ▸ hi), if_neg (hk ▸ hi)]
      · rw [if_neg hk]

theorem get?_eq_none {m : OrderedMap κ α} {k : κ} : get? m k = none ↔ k ∉ keys m := by
  induction m with
  | nil => simp [get?, keys]
  | cons entry m ih =>
    obtain ⟨i, w⟩ := entry
    rw [get?_cons, keys, List.map_cons, List.mem_cons]
    by_cases hk : k = i
    · simp [hk]
    · simpa [hk, keys] using ih

theorem mem_of_get? {m : OrderedMap κ α} {k : κ} {v : α} (h : get? m k = some v) : (k, v) ∈ m := by
  induction m with
  | nil => cases h
  | cons entry m ih =>
    obtain ⟨j, w⟩ := entry
    rw [get?_cons] at h
    split_ifs at h with hk
    · cases h
      exact hk ▸ List.mem_cons_self
    · exact List.mem_cons_of_mem _ (ih h)

theorem get?_eq_some {m : OrderedMap κ α} (hm : (keys m).Nodup) {k : κ} {v : α} :
    get? m k = some v ↔ (k, v) ∈ m := by
  refine ⟨mem_of_get?, fun h => ?_⟩
  induction m with
  | nil => cases h
  | cons entry m ih =>
    obtain ⟨j, w⟩ := entry
    rw [keys, List.map_cons, List.nodup_cons] at hm
    rw [get?_cons]
    rcases List.mem_cons.1 h with heq | h
    · cases heq
      exact if_pos rfl
    · have hne : k ≠ j := fun hk => hm.1 (List.mem_map.2 ⟨(k, v), h, hk⟩)
      rw [if_neg hne, ih hm.2 h]

/-- Entries whose keys and values are changed, when the new keys tell the old ones apart. -/
theorem get?_filterMap {ι β : Type} [BEq ι] [LawfulBEq ι] [DecidableEq ι] {m : OrderedMap κ α}
    (hm : (keys m).Nodup) (f : κ × α → Option (ι × β)) (k : κ) (i : ι)
    (h : ∀ j a i' b, f (j, a) = some (i', b) → (i = i' ↔ k = j)) :
    get? (m.filterMap f) i = (get? m k).bind fun a => (f (k, a)).map Prod.snd := by
  induction m with
  | nil => rfl
  | cons entry m ih =>
    obtain ⟨j, a⟩ := entry
    rw [keys, List.map_cons, List.nodup_cons] at hm
    obtain ⟨hj, hm⟩ := hm
    rw [get?_cons]
    cases hentry : f (j, a) with
    | none =>
      rw [List.filterMap_cons_none hentry, ih hm]
      split_ifs with hk
      · subst hk
        rw [get?_eq_none.2 hj, Option.bind_some, hentry]
        rfl
      · rfl
    | some pair =>
      obtain ⟨i', b⟩ := pair
      rw [List.filterMap_cons_some hentry, get?_cons, ih hm]
      by_cases hk : k = j
      · rw [if_pos ((h j a i' b hentry).2 hk), if_pos hk, hk, Option.bind_some, hentry]
        rfl
      · rw [if_neg fun hi => hk ((h j a i' b hentry).1 hi), if_neg hk]

theorem mem_keys_put {m : OrderedMap κ α} {j k : κ} {v : α} :
    k ∈ keys (put j v m) ↔ k = j ∨ k ∈ keys m := by
  rw [← Decidable.not_iff_not, not_or, ← get?_eq_none, ← get?_eq_none, get?_put]
  split_ifs with hk <;> simp [hk]

theorem nodup_keys_put {m : OrderedMap κ α} (h : (keys m).Nodup) (j : κ) (v : α) :
    (keys (put j v m)).Nodup := by
  induction m with
  | nil => simp [put, keys]
  | cons entry m ih =>
    obtain ⟨i, w⟩ := entry
    rw [keys, List.map_cons, List.nodup_cons] at h
    obtain ⟨hi, hm⟩ := h
    by_cases hij : i = j
    · subst hij
      simpa [put, keys] using ⟨by simpa using hi, hm⟩
    · have hb : (i == j) = false := by simpa using hij
      rw [put, if_neg (by simp [hb]), keys, List.map_cons, List.nodup_cons]
      refine ⟨fun hmem => ?_, ih hm⟩
      rcases mem_keys_put.1 hmem with hj | hi'
      · exact hij hj
      · exact hi hi'

omit [DecidableEq κ] in
theorem mem_put {m : OrderedMap κ α} {k : κ} {v : α} {entry : κ × α} (h : entry ∈ put k v m) :
    entry = (k, v) ∨ entry ∈ m := by
  induction m with
  | nil => exact .inl (List.mem_singleton.1 h)
  | cons first m ih =>
    obtain ⟨i, w⟩ := first
    rw [put] at h
    split_ifs at h with hi
    · rcases List.mem_cons.1 h with heq | h
      · exact .inl (by rw [heq, eq_of_beq hi])
      · exact .inr (List.mem_cons_of_mem _ h)
    · rcases List.mem_cons.1 h with heq | h
      · exact .inr (heq ▸ List.mem_cons_self)
      · exact (ih h).imp_right (List.mem_cons_of_mem _)

theorem nodup_keys_ofList (entries : List (κ × α)) : (keys (ofList entries)).Nodup :=
  List.foldlRecOn entries (fun (m : OrderedMap κ α) (entry : κ × α) => put entry.1 entry.2 m)
    (motive := fun m : OrderedMap κ α => (keys m).Nodup) List.nodup_nil
    fun _ hm entry _ => nodup_keys_put hm entry.1 entry.2

omit [DecidableEq κ] in
theorem mem_of_mem_ofList {entries : List (κ × α)} {entry : κ × α} (h : entry ∈ ofList entries) :
    entry ∈ entries := by
  refine List.foldlRecOn entries (fun (m : OrderedMap κ α) (e : κ × α) => put e.1 e.2 m)
    (motive := fun m : OrderedMap κ α => ∀ e ∈ m, e ∈ entries)
    (fun _ he => absurd he List.not_mem_nil)
    (fun m hm e he x hx => ?_) entry h
  rcases mem_put hx with rfl | hx
  · exact he
  · exact hm x hx

omit [DecidableEq κ] in
theorem put_of_not_mem {m : OrderedMap κ α} {k : κ} (h : k ∉ keys m) (v : α) :
    put k v m = m ++ [(k, v)] := by
  induction m with
  | nil => rfl
  | cons entry m ih =>
    obtain ⟨i, w⟩ := entry
    rw [keys, List.map_cons, List.mem_cons, not_or] at h
    rw [put, if_neg (by simpa using Ne.symm h.1), ih h.2]
    rfl

omit [DecidableEq κ] in
/-- Bindings whose keys are all different are the map that they make. -/
theorem ofList_of_nodup {m : OrderedMap κ α} (h : (keys m).Nodup) : ofList m = m := by
  suffices hfold : ∀ rest acc : OrderedMap κ α, (keys (acc ++ rest)).Nodup →
      rest.foldl (fun m entry => put entry.1 entry.2 m) acc = acc ++ rest from hfold m [] h
  intro rest
  induction rest with
  | nil => intro acc _; exact (List.append_nil acc).symm
  | cons entry rest ih =>
    intro acc hacc
    have hnew : entry.1 ∉ keys acc := by
      rw [keys, List.map_append, List.nodup_append] at hacc
      exact fun hmem => hacc.2.2 _ hmem _ (List.mem_cons_self) rfl
    rw [List.foldl_cons, put_of_not_mem hnew, ih _ (by simpa using hacc)]
    simp

omit [BEq κ] [LawfulBEq κ] [DecidableEq κ] in
theorem nodup_keys_filter {m : OrderedMap κ α} (h : (keys m).Nodup) (p : κ × α → Bool) :
    (keys (m.filter p)).Nodup :=
  h.sublist (List.filter_sublist.map _)

/-- The entries at a key, of which there is one. -/
theorem filter_key {m : OrderedMap κ α} (h : (keys m).Nodup) {k : κ} {v : α}
    (hv : get? m k = some v) : m.filter (fun entry => entry.1 = k) = [(k, v)] := by
  induction m with
  | nil => simp [get?] at hv
  | cons entry m ih =>
    obtain ⟨i, w⟩ := entry
    rw [keys, List.map_cons, List.nodup_cons] at h
    obtain ⟨hi, hm⟩ := h
    rw [get?_cons] at hv
    split_ifs at hv with hk
    · obtain rfl := Option.some.inj hv
      subst hk
      have hrest : m.filter (fun entry => entry.1 = k) = [] := by
        refine List.filter_eq_nil_iff.2 fun entry hentry he => hi ?_
        exact List.mem_map.2 ⟨entry, hentry, by simpa using he⟩
      rw [List.filter_cons_of_pos (by simp), hrest]
    · rw [List.filter_cons_of_neg (by simpa using Ne.symm hk), ih hm hv]

end ChatHost.OrderedMap
