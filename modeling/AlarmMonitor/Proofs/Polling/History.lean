import Std.Data.TreeSet.Lemmas
import AlarmMonitor.Polling.History

/-!
# The history of alarms: order and index

A history keeps its keys twice, as an index and in the order in which they came.  `Sound` says that
the two hold the same keys and that the order holds no key twice; every operation keeps it.  From
then on an operation is described by what it does to the order alone:

* `recent_insertRecords`: the keys of the new records are put in front of the order, the last one
  foremost;
* `recent_prune`: an order that is longer than the mark is cut behind its newest keys.
-/

set_option autoImplicit false

namespace AlarmMonitor.Polling

open AlarmMonitor.Alarm (Key Record)

namespace History

/-- The index holds the keys of the order, and the order holds each of them once. -/
structure Sound (h : History) : Prop where
  mem_index_iff : ∀ k, k ∈ h.index ↔ k ∈ h.recent
  nodup : h.recent.Nodup

/-- The mark and the number of keys that pruning keeps. -/
def bounds (h : History) : Nat × Nat := (h.highWater, h.retain)

/-- The bounds of a new history. -/
def standardBounds : Nat × Nat := (highWaterMark, retainAfterPrune)

theorem highWater_of_bounds {h : History} (hb : h.bounds = standardBounds) :
    h.highWater = highWaterMark := congrArg Prod.fst hb

theorem retain_of_bounds {h : History} (hb : h.bounds = standardBounds) :
    h.retain = retainAfterPrune := congrArg Prod.snd hb

theorem sound_empty : empty.Sound where
  mem_index_iff k := by
    constructor
    · intro hk
      exact absurd hk Std.TreeSet.not_mem_emptyc
    · intro hk
      exact absurd hk List.not_mem_nil
  nodup := List.nodup_nil

/-! ## Clearing -/

/-- A cleared history with the bounds of a new one is a new one. -/
theorem clear_eq_empty {h : History} (hb : h.bounds = standardBounds) : h.clear = empty := by
  obtain ⟨index, recent, highWater, retain, hle⟩ := h
  simp only [bounds, standardBounds, Prod.mk.injEq] at hb
  obtain ⟨rfl, rfl⟩ := hb
  rfl

theorem sound_clear (h : History) : h.clear.Sound where
  mem_index_iff k := sound_empty.mem_index_iff k
  nodup := List.nodup_nil

/-! ## Adding keys -/

/-- A known key changes nothing: it keeps its age. -/
theorem insert_of_mem {h : History} {k : Key} (hs : h.Sound) (hk : k ∈ h.recent) :
    h.insert k = (h, false) := by
  have hc : h.index.contains k = true := (hs.mem_index_iff k).mpr hk
  unfold insert
  rw [if_pos hc]

theorem insert_of_not_mem {h : History} {k : Key} (hs : h.Sound) (hk : k ∉ h.recent) :
    h.insert k = ({ h with index := h.index.insert k, recent := k :: h.recent }, true) := by
  have hc : ¬ h.index.contains k = true := fun hc => hk ((hs.mem_index_iff k).mp hc)
  unfold insert
  rw [if_neg hc]

theorem sound_insert {h : History} (hs : h.Sound) (k : Key) : (h.insert k).1.Sound := by
  by_cases hk : k ∈ h.recent
  · rw [insert_of_mem hs hk]
    exact hs
  · rw [insert_of_not_mem hs hk]
    refine ⟨fun x => ?_, List.nodup_cons.mpr ⟨hk, hs.nodup⟩⟩
    have hkx : compare k x = .eq ↔ x = k := by
      rw [Std.LawfulEqCmp.compare_eq_iff_eq]
      exact eq_comm
    simp only [Std.TreeSet.mem_insert, List.mem_cons, hkx, hs.mem_index_iff x]

@[simp] theorem bounds_insert (h : History) (k : Key) : (h.insert k).1.bounds = h.bounds := by
  unfold insert
  split <;> rfl

/-- The two results of adding a list of records, by its first record. -/
theorem insertRecords_cons (h : History) (r : Record) (rest : List Record) :
    h.insertRecords (r :: rest) =
      (((h.insert r.key).1.insertRecords rest).1,
        if (h.insert r.key).2 then r :: ((h.insert r.key).1.insertRecords rest).2
        else ((h.insert r.key).1.insertRecords rest).2) := rfl

theorem sound_insertRecords {h : History} (hs : h.Sound) (rs : List Record) :
    (h.insertRecords rs).1.Sound := by
  induction rs generalizing h with
  | nil => exact hs
  | cons r rest ih =>
      rw [insertRecords_cons]
      exact ih (sound_insert hs r.key)

@[simp] theorem bounds_insertRecords (h : History) (rs : List Record) :
    (h.insertRecords rs).1.bounds = h.bounds := by
  induction rs generalizing h with
  | nil => rfl
  | cons r rest ih =>
      rw [insertRecords_cons]
      exact (ih (h.insert r.key).1).trans (bounds_insert h r.key)

/-- The keys of the new records stand in front of the keys known before, the last one foremost. -/
theorem recent_insertRecords {h : History} (hs : h.Sound) (rs : List Record) :
    (h.insertRecords rs).1.recent =
      ((h.insertRecords rs).2.map (·.key)).reverse ++ h.recent := by
  induction rs generalizing h with
  | nil => rfl
  | cons r rest ih =>
      have hrest := ih (sound_insert hs r.key)
      rw [insertRecords_cons]
      by_cases hk : r.key ∈ h.recent
      · rw [insert_of_mem hs hk] at hrest ⊢
        exact hrest
      · rw [insert_of_not_mem hs hk] at hrest ⊢
        simp only [if_true, List.map_cons, List.reverse_cons, List.append_assoc,
          List.singleton_append]
        exact hrest

/-- Afterwards the key of every record is known. -/
theorem key_mem_recent_insertRecords {h : History} (hs : h.Sound) {rs : List Record} {r : Record}
    (hr : r ∈ rs) : r.key ∈ (h.insertRecords rs).1.recent := by
  induction rs generalizing h with
  | nil => exact absurd hr List.not_mem_nil
  | cons first rest ih =>
      rw [insertRecords_cons]
      rcases List.mem_cons.mp hr with rfl | hrest
      · have hknown : r.key ∈ (h.insert r.key).1.recent := by
          by_cases hk : r.key ∈ h.recent
          · rw [insert_of_mem hs hk]
            exact hk
          · rw [insert_of_not_mem hs hk]
            exact List.mem_cons_self
        rw [recent_insertRecords (sound_insert hs r.key)]
        exact List.mem_append_right _ hknown
      · exact ih (sound_insert hs first.key) hrest

/-- The new records are among the given ones, in the same order. -/
theorem fresh_sublist (h : History) (rs : List Record) : (h.insertRecords rs).2.Sublist rs := by
  induction rs generalizing h with
  | nil => exact List.Sublist.refl []
  | cons r rest ih =>
      rw [insertRecords_cons]
      cases (h.insert r.key).2 with
      | true => exact (ih (h.insert r.key).1).cons_cons r
      | false => exact (ih (h.insert r.key).1).cons r

/-! ## Pruning -/

theorem prune_of_size_le {h : History} (hle : h.size ≤ h.highWater) : h.prune = (h, 0) := by
  unfold prune
  rw [if_pos hle]

/-- Pruning keeps everything up to the mark, and the newest keys beyond it. -/
theorem recent_prune (h : History) :
    h.prune.1.recent = if h.size ≤ h.highWater then h.recent else h.recent.take h.retain := by
  unfold prune
  split <;> rfl

@[simp] theorem bounds_prune (h : History) : h.prune.1.bounds = h.bounds := by
  unfold prune
  split <;> rfl

theorem mem_foldl_erase (gone : List Key) (index : Std.TreeSet Key) (k : Key) :
    k ∈ gone.foldl (fun t x => t.erase x) index ↔ k ∈ index ∧ k ∉ gone := by
  induction gone generalizing index with
  | nil => simp
  | cons x rest ih =>
      have hx : compare x k ≠ .eq ↔ k ≠ x := by
        rw [ne_eq, Std.LawfulEqCmp.compare_eq_iff_eq]
        exact not_congr eq_comm
      simp only [List.foldl_cons, ih, Std.TreeSet.mem_erase, hx, List.mem_cons, not_or]
      constructor
      · rintro ⟨⟨hne, hk⟩, hrest⟩
        exact ⟨hk, hne, hrest⟩
      · rintro ⟨hk, hne, hrest⟩
        exact ⟨⟨hne, hk⟩, hrest⟩

theorem sound_prune {h : History} (hs : h.Sound) : h.prune.1.Sound := by
  unfold prune
  split
  · exact hs
  · have hnodup : (h.recent.take h.retain ++ h.recent.drop h.retain).Nodup := by
      rw [List.take_append_drop]
      exact hs.nodup
    refine ⟨fun k => ?_, hs.nodup.sublist (List.take_sublist _ _)⟩
    rw [mem_foldl_erase, hs.mem_index_iff k]
    constructor
    · rintro ⟨hk, hgone⟩
      rw [← List.take_append_drop h.retain h.recent] at hk
      exact (List.mem_append.mp hk).resolve_right hgone
    · intro hk
      exact ⟨List.mem_of_mem_take hk,
        fun hgone => (List.nodup_append.mp hnodup).2.2 k hk k hgone rfl⟩

end History

end AlarmMonitor.Polling
