import AlarmMonitor.Proofs.Polling.Run

/-!
# What is new in a reply

The closing section of a cycle adds the keys of all records of a reply, one after the other, and
prunes the history once, behind the last of them.

* `History.newRecords`: the records whose key is neither known nor that of an earlier record;
* `History.insertRecords_snd`: these are the records that are surfaced;
* `History.toList_prune_insertRecords`: the history behind a reply;
* `System.size_of_reachable`: no reachable poller remembers more keys than the mark allows.
-/

set_option autoImplicit false

namespace AlarmMonitor.Polling

open AlarmMonitor.Alarm (Key Record)

namespace History

/-- The records of a row whose key is neither known nor that of an earlier record of the row. -/
def newRecords (known : List Key) (rs : List Record) : List Record :=
  (rs.zipIdx.filter fun x => x.1.key ∉ known ∧ x.1.key ∉ (rs.take x.2).map (·.key)).map (·.1)

/-- A row of keys, the oldest first, that is cut to its newest keys if it is longer than the mark. -/
def cutToMark (keys : List Key) : List Key :=
  if keys.length ≤ highWaterMark then keys else keys.drop (keys.length - retainAfterPrune)

theorem mem_of_mem_cutToMark {keys : List Key} {k : Key} (h : k ∈ cutToMark keys) : k ∈ keys := by
  unfold cutToMark at h
  split at h
  · exact h
  · exact List.mem_of_mem_drop h

/-- Behind the first record of a row its key is known. -/
theorem newRecords_cons (known : List Key) (r : Record) (rest : List Record) :
    newRecords known (r :: rest) =
      (if r.key ∈ known then [] else [r]) ++ newRecords (r.key :: known) rest := by
  have hrest : ((rest.zipIdx.map (Prod.map id (· + 1))).filter fun x =>
        x.1.key ∉ known ∧ x.1.key ∉ ((r :: rest).take x.2).map (·.key)).map (·.1) =
      newRecords (r.key :: known) rest := by
    rw [List.filter_map, List.map_map]
    unfold newRecords
    congr 1
    refine List.filter_congr fun x _ => ?_
    simp only [Function.comp_apply, Prod.map_fst, Prod.map_snd, id, List.take_succ_cons,
      List.map_cons, List.mem_cons, not_or]
    exact decide_eq_decide.mpr ⟨fun ⟨hk, hr, hb⟩ => ⟨⟨hr, hk⟩, hb⟩, fun ⟨⟨hr, hk⟩, hb⟩ => ⟨hk, hr, hb⟩⟩
  rw [← hrest, newRecords, List.zipIdx_cons', List.filter_cons]
  by_cases hk : r.key ∈ known
  · simp only [hk, not_true, false_and, decide_false, Bool.false_eq_true, if_false, if_true,
      List.nil_append]
  · simp only [hk, not_false_eq_true, true_and, List.take_zero, List.map_nil, List.not_mem_nil,
      decide_true, if_true, if_false, List.map_cons, List.singleton_append]

/-- The records that a history surfaces are those that are new to the keys that it holds. -/
theorem insertRecords_snd {h : History} (hs : h.Sound) {known : List Key}
    (hknown : ∀ k, k ∈ known ↔ k ∈ h.recent) (rs : List Record) :
    (h.insertRecords rs).2 = newRecords known rs := by
  induction rs generalizing h known with
  | nil => rfl
  | cons r rest ih =>
      rw [insertRecords_cons, newRecords_cons]
      by_cases hk : r.key ∈ h.recent
      · have hmore : ∀ k, k ∈ r.key :: known ↔ k ∈ h.recent := by
          intro k
          rw [List.mem_cons, hknown]
          exact ⟨fun hor => hor.elim (fun heq => heq ▸ hk) id, Or.inr⟩
        rw [insert_of_mem hs hk, if_pos ((hknown r.key).mpr hk)]
        exact ih hs hmore
      · have hmore : ∀ k, k ∈ r.key :: known ↔ k ∈ (h.insert r.key).1.recent := by
          intro k
          rw [insert_of_not_mem hs hk, List.mem_cons, List.mem_cons, hknown]
        have hrest := ih (sound_insert hs r.key) hmore
        rw [if_neg fun hmem => hk ((hknown r.key).mp hmem), ← hrest, insert_of_not_mem hs hk]
        rfl

/-- The records of a reply that are surfaced are those that are new to the history. -/
theorem insertRecords_snd_eq {h : History} (hs : h.Sound) (rs : List Record) :
    (h.insertRecords rs).2 = newRecords h.toList rs :=
  insertRecords_snd hs (fun _ => List.mem_reverse) rs

/-- A history with the usual bounds holds, behind a reply, its old keys and those of the new
records, cut to the mark. -/
theorem toList_prune_insertRecords {h : History} (hs : h.Sound) (hb : h.bounds = standardBounds)
    (rs : List Record) :
    (h.insertRecords rs).1.prune.1.toList =
      cutToMark (h.toList ++ (newRecords h.toList rs).map (·.key)) := by
  have hrow : (h.insertRecords rs).1.toList =
      h.toList ++ (newRecords h.toList rs).map (·.key) := by
    rw [toList, recent_insertRecords hs, insertRecords_snd_eq hs, List.reverse_append,
      List.reverse_reverse]
    rfl
  have hbounds : (h.insertRecords rs).1.bounds = standardBounds := by
    rw [bounds_insertRecords, hb]
  have hsize : (h.insertRecords rs).1.size =
      (h.toList ++ (newRecords h.toList rs).map (·.key)).length := by
    rw [← hrow, toList, List.length_reverse]
    rfl
  unfold cutToMark
  rw [← hsize, ← hrow, toList, recent_prune, highWater_of_bounds hbounds,
    retain_of_bounds hbounds]
  split
  · rfl
  · rw [List.reverse_take]
    rfl

/-- Pruning leaves no more keys than the mark allows. -/
theorem size_prune_le (h : History) : h.prune.1.size ≤ h.prune.1.highWater := by
  unfold prune
  split
  · assumption
  · exact Nat.le_trans (List.length_take_le _ _) h.retain_le

end History

/-- No section leaves more keys than the mark allows. -/
theorem Section.size_apply_le (c : Section) {s : State} (hs : s.seen.size ≤ s.seen.highWater) :
    (c.apply s).seen.size ≤ (c.apply s).seen.highWater := by
  cases c with
  | configure o => exact hs
  | enter o =>
      rcases Bool.eq_false_or_eq_true s.running with hrun | hrun
      · rw [apply_enter_of_running hrun]
        exact hs
      · rw [apply_enter_of_stopped hrun]
        exact hs
  | openCycle now =>
      simp only [apply, State.seen_openCycle]
      exact hs
  | closeCycle session hint body =>
      rcases s.stale_or_current session with hstale | ⟨hrun, hsession⟩
      · rw [apply_closeCycle_of_stale hstale]
        exact hs
      · rw [apply_closeCycle_of_current hrun hsession]
        exact History.size_prune_le _
  | arm session task =>
      by_cases h : s.awaitsTimer session = true
      · rw [apply_arm_of_awaits h]
        exact hs
      · rw [apply_arm_of_not_awaits h]
        exact hs
  | rollBack session =>
      by_cases h : s.awaitsTimer session = true
      · rw [apply_rollBack_of_awaits h]
        exact Nat.zero_le _
      · rw [apply_rollBack_of_not_awaits h]
        exact hs
  | stop | clearHistory => exact Nat.zero_le _

namespace System

/-- No reachable poller remembers more keys than the mark allows. -/
theorem size_of_reachable {s : System} (h : Reachable s) : s.state.seen.size ≤ highWaterMark := by
  have hle : s.state.seen.size ≤ s.state.seen.highWater :=
    Reachable.induction (P := fun s => s.state.seen.size ≤ s.state.seen.highWater)
      (fun _ => Nat.zero_le _)
      (fun _ hs happly => state_induction (P := fun s => s.seen.size ≤ s.seen.highWater)
        (fun c _ hsize => c.size_apply_le hsize) (fun hsize => hsize) hs happly) h
  rw [History.highWater_of_bounds (sound_of_reachable h).seen_bounds] at hle
  exact hle

/-- No reachable poller remembers a key twice. -/
theorem nodup_of_reachable {s : System} (h : Reachable s) : s.state.seen.toList.Nodup :=
  (List.reverse_perm _).nodup_iff.mpr (sound_of_reachable h).seen_sound.nodup

end System

end AlarmMonitor.Polling
