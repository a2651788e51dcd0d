import AlarmMonitor.Proofs.Polling.Log

/-!
# How often an alarm is surfaced

An alarm is surfaced where the closing section of a cycle adds its key to the history.  What the
history holds at any moment is read off the log of the run before it.

* `Log.Remembers`: the history holds the newest keys surfaced since it was last made to forget,
  and either all of them or at least as many as pruning keeps;
* `Section.remembers_apply`, `System.fresh_of_run`: every section, and so every run, keeps it, and
  a key is surfaced only when the history does not hold it;
* `surfaced_at_most_once`: a key that is surfaced again was forgotten by a stop, an undone start
  or a cleared history, or was displaced by a thousand others; and where neither can happen every
  key is surfaced once.
-/

set_option autoImplicit false

namespace AlarmMonitor.Polling

open AlarmMonitor.Alarm (Key Record)

/-! ## What a history remembers -/

namespace Log

/-- The keys surfaced since the history was last forgotten, the newest first, when some such keys
are known before the log begins. -/
def surfacedSince (known : List Key) : List Mark → List Key
  | [] => known
  | .surfaced k :: rest => surfacedSince (k :: known) rest
  | m :: rest => surfacedSince (if m.forgets then [] else known) rest

/-- The keys that are surfaced in a log, in order. -/
def surfacedKeys (log : List Mark) : List Key := log.filterMap (·.surfaced?)

theorem surfacedSince_append (known : List Key) (first second : List Mark) :
    surfacedSince known (first ++ second) = surfacedSince (surfacedSince known first) second := by
  induction first generalizing known with
  | nil => rfl
  | cons m rest ih => cases m <;> exact ih _

/-- Where nothing is forgotten, all surfaced keys are in front of those known before. -/
theorem surfacedSince_of_kept {log : List Mark} (h : ∀ m ∈ log, m.forgets = false)
    (known : List Key) : surfacedSince known log = (surfacedKeys log).reverse ++ known := by
  induction log generalizing known with
  | nil => rfl
  | cons m rest ih =>
      have hm := h m List.mem_cons_self
      have hrest := ih fun m' hm' => h m' (List.mem_cons_of_mem m hm')
      cases m with
      | surfaced k =>
          have hkeys : surfacedKeys (.surfaced k :: rest) = k :: surfacedKeys rest := rfl
          rw [hkeys, List.reverse_cons, List.append_assoc]
          exact hrest (k :: known)
      | opened | taken => exact hrest known
      | stopped | rolledBack | cleared => exact absurd hm nofun

theorem surfacedSince_map_surfaced (known keys : List Key) :
    surfacedSince known (keys.map .surfaced) = keys.reverse ++ known := by
  induction keys generalizing known with
  | nil => rfl
  | cons k rest ih =>
      rw [List.map_cons, List.reverse_cons, List.append_assoc]
      exact ih (k :: known)

theorem surfaced_mem_of_mem_surfacedKeys {log : List Mark} {k : Key} (h : k ∈ surfacedKeys log) :
    .surfaced k ∈ log := by
  obtain ⟨m, hm, hk⟩ := List.mem_filterMap.mp h
  cases m with
  | surfaced k' =>
      cases hk
      exact hm
  | opened | stopped | rolledBack | cleared | taken => exact absurd hk nofun

/-- The keys of all replies that are taken in. -/
def takenKeys (log : List Mark) : List Key := log.flatMap (·.takenKeys)

theorem surfacedKeys_append (first second : List Mark) :
    surfacedKeys (first ++ second) = surfacedKeys first ++ surfacedKeys second :=
  List.filterMap_append

theorem takenKeys_append (first second : List Mark) :
    takenKeys (first ++ second) = takenKeys first ++ takenKeys second :=
  List.flatMap_append

/-- The marks of a reply that is taken in. -/
theorem surfacedKeys_of_reply (taken keys : List Key) :
    surfacedKeys (.taken taken :: keys.map .surfaced) = keys := by
  induction keys with
  | nil => rfl
  | cons k rest ih => exact congrArg (k :: ·) ih

theorem takenKeys_of_reply (taken keys : List Key) :
    takenKeys (.taken taken :: keys.map .surfaced) = taken := by
  have hnone : ∀ keys : List Key, takenKeys (keys.map .surfaced) = [] := by
    intro keys
    induction keys with
    | nil => rfl
    | cons k rest ih => exact ih
  have hcons : takenKeys (.taken taken :: keys.map .surfaced) =
      taken ++ takenKeys (keys.map .surfaced) := rfl
  rw [hcons, hnone, List.append_nil]

/-- An order of keys that a history may have behind a log: the newest keys surfaced since it was
last forgotten, all of them or at least as many as pruning keeps. -/
structure Remembers (past : List Mark) (recent : List Key) : Prop where
  nodup : recent.Nodup
  newest : recent <+: surfacedSince [] past
  enough : recent = surfacedSince [] past ∨ retainAfterPrune ≤ recent.length

theorem remembers_nil : Remembers [] [] := ⟨List.nodup_nil, List.prefix_rfl, Or.inl rfl⟩

/-- Nothing is remembered behind a mark that forgets. -/
theorem remembers_of_forgets {past : List Mark} {m : Mark} (h : m.forgets = true) :
    Remembers (past ++ [m]) [] := by
  have hsince : surfacedSince [] (past ++ [m]) = [] := by
    rw [surfacedSince_append]
    cases m with
    | stopped | rolledBack | cleared => rfl
    | opened | taken | surfaced => exact absurd h nofun
  exact ⟨List.nodup_nil, List.nil_prefix, Or.inl hsince.symm⟩

/-- A start leaves the history as it is. -/
theorem Remembers.opened {past : List Mark} {recent : List Key} (h : Remembers past recent) :
    Remembers (past ++ [.opened]) recent := by
  have hsince : surfacedSince [] (past ++ [.opened]) = surfacedSince [] past :=
    surfacedSince_append [] past [.opened]
  refine ⟨h.nodup, ?_, ?_⟩
  · rw [hsince]
    exact h.newest
  · rw [hsince]
    exact h.enough

/-- New keys are remembered in front of the others. -/
theorem Remembers.surfaced {past : List Mark} {recent keys : List Key} (h : Remembers past recent)
    (taken : List Key) (hnodup : (keys.reverse ++ recent).Nodup) :
    Remembers (past ++ .taken taken :: keys.map .surfaced) (keys.reverse ++ recent) := by
  have hsince : surfacedSince [] (past ++ .taken taken :: keys.map .surfaced) =
      keys.reverse ++ surfacedSince [] past := by
    rw [surfacedSince_append]
    exact surfacedSince_map_surfaced _ keys
  refine ⟨hnodup, ?_, ?_⟩
  · rw [hsince]
    exact (List.prefix_append_right_inj _).mpr h.newest
  · rcases h.enough with hall | hmany
    · left
      rw [hsince, hall]
    · right
      rw [List.length_append]
      exact Nat.le_trans hmany (Nat.le_add_left _ _)

/-- The newest of the remembered keys are remembered, if there are enough of them. -/
theorem Remembers.take {past : List Mark} {recent : List Key} (h : Remembers past recent) {n : Nat}
    (hn : retainAfterPrune ≤ n) (hlength : n ≤ recent.length) :
    Remembers past (recent.take n) := by
  refine ⟨h.nodup.sublist (List.take_sublist n recent), ?_, ?_⟩
  · exact List.IsPrefix.trans (List.take_prefix n recent) h.newest
  · right
    rw [List.length_take, Nat.min_eq_left hlength]
    exact hn

/-- Behind this log a history may be without the key. -/
def Fresh (past : List Mark) (k : Key) : Prop := ∃ recent, Remembers past recent ∧ k ∉ recent

/-- A key that was surfaced and is no longer remembered was forgotten or displaced. -/
theorem displaced_of_fresh {first between : List Mark} {k : Key}
    (h : Fresh (first ++ .surfaced k :: between) k) :
    (∃ m ∈ between, m.forgets = true) ∨
      ∃ others : List Key, others.Nodup ∧ k ∉ others ∧ retainAfterPrune ≤ others.length ∧
        ∀ x ∈ others, .surfaced x ∈ between := by
  by_cases hforget : ∃ m ∈ between, m.forgets = true
  · exact Or.inl hforget
  · refine Or.inr ?_
    obtain ⟨recent, hrecent, hk⟩ := h
    have hkept : ∀ m ∈ between, m.forgets = false := by
      intro m hm
      rw [Bool.eq_false_iff]
      exact fun hm' => hforget ⟨m, hm, hm'⟩
    have hsince : surfacedSince [] (first ++ .surfaced k :: between) =
        (surfacedKeys between).reverse ++ k :: surfacedSince [] first := by
      rw [surfacedSince_append]
      exact surfacedSince_of_kept hkept _
    have hmany : retainAfterPrune ≤ recent.length := by
      refine hrecent.enough.resolve_left fun hall => hk ?_
      rw [hall, hsince]
      exact List.mem_append_right _ List.mem_cons_self
    -- the remembered keys end before the earlier surfacing of the key
    have hlater : recent <+: (surfacedKeys between).reverse := by
      obtain ⟨rest, hrest⟩ := hrecent.newest
      rw [hsince] at hrest
      rcases List.append_eq_append_iff.mp hrest with ⟨later, hlater, _⟩ | ⟨older, holder, hcons⟩
      · exact ⟨later, hlater.symm⟩
      · cases older with
        | nil =>
            rw [List.append_nil] at holder
            exact holder ▸ List.prefix_rfl
        | cons x older =>
            rw [List.cons_append, List.cons.injEq] at hcons
            refine absurd ?_ hk
            rw [holder, hcons.1]
            exact List.mem_append_right _ List.mem_cons_self
    refine ⟨recent, hrecent.nodup, hk, hmany, fun x hx => ?_⟩
    exact surfaced_mem_of_mem_surfacedKeys (List.mem_reverse.mp (hlater.subset hx))

/-- A history that was empty when the log began and has lost nothing since. -/
structure Keeps (past : List Mark) (recent : List Key) : Prop where
  surfaced : recent = (surfacedKeys past).reverse
  mem_iff : ∀ k, k ∈ recent ↔ k ∈ takenKeys past

theorem keeps_nil : Keeps [] [] := ⟨rfl, fun _ => Iff.rfl⟩

/-- Marks that neither surface nor take in a key leave the history as it is. -/
theorem Keeps.append {past more : List Mark} {recent : List Key} (h : Keeps past recent)
    (hsurfaced : surfacedKeys more = []) (htaken : takenKeys more = []) :
    Keeps (past ++ more) recent := by
  refine ⟨?_, fun k => ?_⟩
  · rw [surfacedKeys_append, hsurfaced, List.append_nil]
    exact h.surfaced
  · rw [takenKeys_append, htaken, List.append_nil]
    exact h.mem_iff k

/-- A history that lost nothing shows every key that was taken in once. -/
theorem Keeps.count_surfacedKeys {past : List Mark} {recent : List Key} (h : Keeps past recent)
    (hnodup : recent.Nodup) {k : Key} (hk : k ∈ takenKeys past) :
    (surfacedKeys past).count k = 1 := by
  have hmem : k ∈ recent := (h.mem_iff k).mpr hk
  rw [h.surfaced] at hmem hnodup
  have hkeys : (surfacedKeys past).Nodup := (List.reverse_perm _).nodup_iff.mp hnodup
  rw [hkeys.count, if_pos (List.mem_reverse.mp hmem)]

end Log

/-! ## What the sections do to a history -/

namespace Section

open State

/-- The history behind the closing section of a cycle. -/
theorem remembers_closeCycle {s : State} (hs : s.Sound) {past : List Mark}
    (h : Log.Remembers past s.seen.recent) (session : Nat) (hint body : String) :
    Log.Remembers (past ++ (Section.closeCycle session hint body).marks s)
      ((Section.closeCycle session hint body).apply s).seen.recent := by
  rcases s.stale_or_current session with hstale | ⟨hrun, hsession⟩
  · rw [apply_closeCycle_of_stale hstale, marks_closeCycle_of_stale hstale, List.append_nil]
    exact h
  · rw [apply_closeCycle_of_current hrun hsession, marks_closeCycle_of_current hrun hsession]
    have hsound := History.sound_insertRecords hs.seen_sound (Alarm.ofBody body)
    have hrecent := History.recent_insertRecords hs.seen_sound (Alarm.ofBody body)
    have hbounds : (s.seen.insertRecords (Alarm.ofBody body)).1.bounds =
        History.standardBounds := by
      rw [History.bounds_insertRecords, hs.seen_bounds]
    have hinserted := h.surfaced ((Alarm.ofBody body).map (·.key)) (hrecent ▸ hsound.nodup)
    rw [← hrecent] at hinserted
    simp only [History.recent_prune]
    split
    · exact hinserted
    · rename_i hlarge
      rw [History.highWater_of_bounds hbounds] at hlarge
      rw [History.retain_of_bounds hbounds]
      have hlength : retainAfterPrune ≤
          (s.seen.insertRecords (Alarm.ofBody body)).1.recent.length :=
        Nat.le_trans (by decide) (Nat.le_of_lt (Nat.lt_of_not_le hlarge))
      exact hinserted.take (Nat.le_refl _) hlength

/-- Every section leaves a history that remembers. -/
theorem remembers_apply (c : Section) {s : State} (hs : s.Sound) {past : List Mark}
    (h : Log.Remembers past s.seen.recent) :
    Log.Remembers (past ++ c.marks s) (c.apply s).seen.recent := by
  cases c with
  | configure o =>
      simp only [marks, List.append_nil]
      exact h
  | enter o =>
      rcases Bool.eq_false_or_eq_true s.running with hrun | hrun
      · rw [apply_enter_of_running hrun]
        simp only [marks, hrun, if_true, List.append_nil]
        exact h
      · rw [apply_enter_of_stopped hrun]
        simp only [marks, hrun, Bool.false_eq_true, if_false]
        exact h.opened
  | openCycle now =>
      simp only [marks, apply, seen_openCycle, List.append_nil]
      exact h
  | closeCycle session hint body => exact remembers_closeCycle hs h session hint body
  | arm session task =>
      by_cases hawaits : s.awaitsTimer session = true
      · rw [apply_arm_of_awaits hawaits]
        simp only [marks, List.append_nil]
        exact h
      · rw [apply_arm_of_not_awaits hawaits]
        simp only [marks, List.append_nil]
        exact h
  | rollBack session =>
      by_cases hawaits : s.awaitsTimer session = true
      · rw [apply_rollBack_of_awaits hawaits]
        simp only [marks, if_pos hawaits]
        exact Log.remembers_of_forgets rfl
      · rw [apply_rollBack_of_not_awaits hawaits]
        simp only [marks, if_neg hawaits, List.append_nil]
        exact h
  | stop => exact Log.remembers_of_forgets rfl
  | clearHistory => exact Log.remembers_of_forgets rfl

/-- A section surfaces a key only if the history is without it. -/
theorem fresh_of_marks {c : Section} {s : State} (hs : s.Sound) {past first last : List Mark}
    {k : Key} (h : Log.Remembers past s.seen.recent)
    (hmarks : c.marks s = first ++ .surfaced k :: last) : Log.Fresh (past ++ first) k := by
  have hmem : .surfaced k ∈ c.marks s := by
    rw [hmarks]
    exact List.mem_append_right _ List.mem_cons_self
  cases c with
  | closeCycle session hint body =>
      rcases s.stale_or_current session with hstale | ⟨hrun, hsession⟩
      · rw [marks_closeCycle_of_stale hstale] at hmem
        exact absurd hmem List.not_mem_nil
      · rw [marks_closeCycle_of_current hrun hsession] at hmarks
        cases first with
        | nil => cases (List.cons.inj hmarks).1
        | cons m first =>
            obtain ⟨rfl, hkeys⟩ := List.cons.inj hmarks
            obtain ⟨before, rest, hsplit, rfl, hrest⟩ := List.map_eq_append_iff.mp hkeys
            obtain ⟨k', after, rfl, hk', _⟩ := List.map_eq_cons_iff.mp hrest
            cases hk'
            have hsound := History.sound_insertRecords hs.seen_sound (Alarm.ofBody body)
            have hnodup := hsound.nodup
            rw [History.recent_insertRecords hs.seen_sound, hsplit, List.reverse_append,
              List.reverse_cons, List.append_assoc, List.append_assoc] at hnodup
            -- the keys surfaced before this one, and those known before, are without it
            obtain ⟨hk, hbefore⟩ := List.nodup_cons.mp (List.nodup_append.mp hnodup).2.1
            exact ⟨before.reverse ++ s.seen.recent, h.surfaced _ hbefore, hk⟩
  | enter o =>
      simp only [marks] at hmem
      split at hmem
      · exact absurd hmem List.not_mem_nil
      · cases List.mem_singleton.mp hmem
  | rollBack session =>
      simp only [marks] at hmem
      split at hmem
      · cases List.mem_singleton.mp hmem
      · exact absurd hmem List.not_mem_nil
  | stop | clearHistory => cases List.mem_singleton.mp hmem
  | configure | openCycle | arm => exact absurd hmem List.not_mem_nil

/-- As long as few enough keys are taken in, the closing section of a cycle loses none. -/
theorem keeps_closeCycle {s : State} (hs : s.Sound) {past : List Mark}
    (h : Log.Keeps past s.seen.recent) {session : Nat} {hint body : String}
    (hfew : ∀ keys : List Key, keys.Nodup →
      keys ⊆ Log.takenKeys (past ++ (Section.closeCycle session hint body).marks s) →
        keys.length ≤ highWaterMark) :
    Log.Keeps (past ++ (Section.closeCycle session hint body).marks s)
      ((Section.closeCycle session hint body).apply s).seen.recent := by
  rcases s.stale_or_current session with hstale | ⟨hrun, hsession⟩
  · rw [apply_closeCycle_of_stale hstale, marks_closeCycle_of_stale hstale]
    exact h.append rfl rfl
  · rw [marks_closeCycle_of_current hrun hsession] at hfew
    rw [apply_closeCycle_of_current hrun hsession, marks_closeCycle_of_current hrun hsession]
    have hsound := History.sound_insertRecords hs.seen_sound (Alarm.ofBody body)
    have hrecent := History.recent_insertRecords hs.seen_sound (Alarm.ofBody body)
    have hbounds : (s.seen.insertRecords (Alarm.ofBody body)).1.bounds =
        History.standardBounds := by
      rw [History.bounds_insertRecords, hs.seen_bounds]
    have hmem : ∀ k, k ∈ (s.seen.insertRecords (Alarm.ofBody body)).1.recent ↔
        k ∈ Log.takenKeys past ++ (Alarm.ofBody body).map (·.key) := by
      intro k
      rw [List.mem_append]
      constructor
      · intro hk
        rw [hrecent, List.mem_append, List.mem_reverse] at hk
        rcases hk with hfresh | hknown
        · exact Or.inr (((History.fresh_sublist _ _).map _).subset hfresh)
        · exact Or.inl ((h.mem_iff k).mp hknown)
      · rintro (hknown | htaken)
        · rw [hrecent]
          exact List.mem_append_right _ ((h.mem_iff k).mpr hknown)
        · obtain ⟨r, hr, rfl⟩ := List.mem_map.mp htaken
          exact History.key_mem_recent_insertRecords hs.seen_sound hr
    rw [Log.takenKeys_append, Log.takenKeys_of_reply] at hfew
    have hsize : (s.seen.insertRecords (Alarm.ofBody body)).1.size ≤
        (s.seen.insertRecords (Alarm.ofBody body)).1.highWater := by
      rw [History.highWater_of_bounds hbounds]
      exact hfew _ hsound.nodup fun k hk => (hmem k).mp hk
    rw [History.prune_of_size_le hsize]
    refine ⟨?_, fun k => ?_⟩
    · rw [Log.surfacedKeys_append, Log.surfacedKeys_of_reply, List.reverse_append,
        ← h.surfaced]
      exact hrecent
    · rw [Log.takenKeys_append, Log.takenKeys_of_reply]
      exact hmem k

/-- As long as few enough keys are taken in, no section but those that forget loses a key. -/
theorem keeps_apply (c : Section) {s : State} (hs : s.Sound) {past : List Mark}
    (h : Log.Keeps past s.seen.recent) (hkept : ∀ m ∈ c.marks s, m.forgets = false)
    (hfew : ∀ keys : List Key, keys.Nodup → keys ⊆ Log.takenKeys (past ++ c.marks s) →
      keys.length ≤ highWaterMark) :
    Log.Keeps (past ++ c.marks s) (c.apply s).seen.recent := by
  cases c with
  | configure o => exact h.append rfl rfl
  | enter o =>
      rcases Bool.eq_false_or_eq_true s.running with hrun | hrun
      · rw [apply_enter_of_running hrun]
        simp only [marks, hrun, if_true]
        exact h.append rfl rfl
      · rw [apply_enter_of_stopped hrun]
        simp only [marks, hrun, Bool.false_eq_true, if_false]
        exact h.append rfl rfl
  | openCycle now =>
      simp only [marks, apply, seen_openCycle]
      exact h.append rfl rfl
  | closeCycle session hint body => exact keeps_closeCycle hs h hfew
  | arm session task =>
      by_cases hawaits : s.awaitsTimer session = true
      · rw [apply_arm_of_awaits hawaits]
        exact h.append rfl rfl
      · rw [apply_arm_of_not_awaits hawaits]
        exact h.append rfl rfl
  | rollBack session =>
      by_cases hawaits : s.awaitsTimer session = true
      · simp only [marks, if_pos hawaits] at hkept
        exact absurd (hkept .rolledBack (List.mem_singleton.mpr rfl)).symm Bool.false_ne_true
      · rw [apply_rollBack_of_not_awaits hawaits]
        simp only [marks, if_neg hawaits]
        exact h.append rfl rfl
  | stop =>
      exact absurd (hkept .stopped (List.mem_singleton.mpr rfl)).symm Bool.false_ne_true
  | clearHistory =>
      exact absurd (hkept .cleared (List.mem_singleton.mpr rfl)).symm Bool.false_ne_true

/-- Behind a start that takes effect, and behind a request to forget, the history is empty. -/
theorem recent_of_begins {c : Section} {s : State} (hs : s.Sound)
    (h : .opened ∈ c.marks s ∨ .cleared ∈ c.marks s) : (c.apply s).seen.recent = [] := by
  cases c with
  | enter o =>
      rcases Bool.eq_false_or_eq_true s.running with hrun | hrun
      · simp only [marks, hrun, if_true] at h
        rcases h with h | h <;> exact absurd h List.not_mem_nil
      · rw [apply_enter_of_stopped hrun]
        simp only [(hs.stopped hrun).1]
        rfl
  | clearHistory => rfl
  | stop => rfl
  | closeCycle session hint body =>
      rcases s.stale_or_current session with hstale | ⟨hrun, hsession⟩
      · rw [marks_closeCycle_of_stale hstale] at h
        rcases h with h | h <;> exact absurd h List.not_mem_nil
      · rw [marks_closeCycle_of_current hrun hsession] at h
        rcases h with h | h
        · exact absurd h (by simp)
        · exact absurd h (by simp)
  | rollBack session =>
      simp only [marks] at h
      split at h
      · rcases h with h | h <;> cases List.mem_singleton.mp h
      · rcases h with h | h <;> exact absurd h List.not_mem_nil
  | configure | openCycle | arm => rcases h with h | h <;> exact absurd h List.not_mem_nil

end Section

namespace System

/-! ## What a run does to a history -/

/-- Every transition leaves a history that remembers. -/
theorem remembers_of_apply {s t : System} {e : Event} {effects : List Effect}
    (hs : s.state.Sound) {past : List Mark} (hpast : Log.Remembers past s.state.seen.recent)
    (h : s.apply e = some (t, effects)) :
    Log.Remembers (past ++ s.marks e) t.state.seen.recent := by
  have hthrough : Log.Remembers (past ++ s.marks e)
      (s.state.through (s.section? e)).seen.recent := by
    unfold marks
    cases s.section? e with
    | none =>
        rw [List.append_nil]
        exact hpast
    | some c => exact Section.remembers_apply c hs hpast
  rcases state_of_apply h with heq | heq
  · rw [heq]
    exact hthrough
  · rw [heq]
    exact hthrough

/-- In a run a key is surfaced only where the history is without it. -/
theorem fresh_of_run {s t : System} {events : List Event} {effects : List Effect}
    (hs : s.state.Sound) {past first last : List Mark} {k : Key}
    (hpast : Log.Remembers past s.state.seen.recent) (h : s.run events = some (t, effects))
    (hlog : s.log events = first ++ .surfaced k :: last) : Log.Fresh (past ++ first) k := by
  induction events generalizing s past first effects with
  | nil =>
      have hempty : [] = first ++ .surfaced k :: last := hlog
      exact absurd hempty.symm (by simp)
  | cons e rest ih =>
      obtain ⟨u, _, later, happly, hrun, _⟩ := run_cons_eq_some_iff.mp h
      rw [log_cons happly] at hlog
      have hsurfaced : ∀ {before after : List Mark},
          s.marks e = before ++ .surfaced k :: after → Log.Fresh (past ++ before) k := by
        intro before after hmarks
        unfold marks at hmarks
        split at hmarks
        · exact Section.fresh_of_marks hs hpast hmarks
        · exact absurd hmarks.symm (by simp)
      rcases List.append_eq_append_iff.mp hlog with ⟨before, rfl, hafter⟩ | ⟨after, hmarks, hcons⟩
      · rw [← List.append_assoc]
        exact ih (sound_of_apply hs happly) (remembers_of_apply hs hpast happly) hrun hafter
      · cases after with
        | nil =>
            rw [List.append_nil] at hmarks
            have hrest : u.log rest = [] ++ .surfaced k :: last := hcons.symm
            have hfresh := ih (sound_of_apply hs happly) (remembers_of_apply hs hpast happly)
              hrun hrest
            rw [List.append_nil, hmarks] at hfresh
            exact hfresh
        | cons m after =>
            rw [List.cons_append, List.cons.injEq] at hcons
            rw [← hcons.1] at hmarks
            exact hsurfaced hmarks

/-- As long as few enough keys are taken in, a run without marks that forget loses no key. -/
theorem keeps_of_run {s t : System} {events : List Event} {effects : List Effect}
    (hs : s.state.Sound) {past : List Mark} (hpast : Log.Keeps past s.state.seen.recent)
    (h : s.run events = some (t, effects)) (hkept : ∀ m ∈ s.log events, m.forgets = false)
    (hfew : ∀ keys : List Key, keys.Nodup → keys ⊆ Log.takenKeys (past ++ s.log events) →
      keys.length ≤ highWaterMark) :
    Log.Keeps (past ++ s.log events) t.state.seen.recent := by
  induction events generalizing s past effects with
  | nil =>
      cases h
      have hlog : past ++ t.log [] = past := List.append_nil past
      rw [hlog]
      exact hpast
  | cons e rest ih =>
      obtain ⟨u, _, later, happly, hrun, _⟩ := run_cons_eq_some_iff.mp h
      rw [log_cons happly] at hkept hfew
      rw [log_cons happly, ← List.append_assoc]
      have hthrough : Log.Keeps (past ++ s.marks e)
          (s.state.through (s.section? e)).seen.recent := by
        have hkept' : ∀ m ∈ s.marks e, m.forgets = false := fun m hm =>
          hkept m (List.mem_append_left _ hm)
        have hfew' : ∀ keys : List Key, keys.Nodup →
            keys ⊆ Log.takenKeys (past ++ s.marks e) → keys.length ≤ highWaterMark := by
          intro keys hnodup hsub
          refine hfew keys hnodup (fun k hk => ?_)
          rw [← List.append_assoc, Log.takenKeys_append]
          exact List.mem_append_left _ (hsub hk)
        unfold marks at hkept' hfew' ⊢
        cases hsection : s.section? e with
        | none => exact hpast.append rfl rfl
        | some c =>
            rw [hsection] at hkept' hfew'
            exact Section.keeps_apply c hs hpast hkept' hfew'
      have hnext : Log.Keeps (past ++ s.marks e) u.state.seen.recent := by
        rcases state_of_apply happly with heq | heq
        · rw [heq]
          exact hthrough
        · rw [heq]
          exact hthrough
      refine ih (sound_of_apply hs happly) hnext hrun
        (fun m hm => hkept m (List.mem_append_right _ hm)) ?_
      rw [List.append_assoc]
      exact hfew

/-- Does a stretch of a run begin here with an empty history: with a start that takes effect, or
with a request to forget? -/
def Begins (s : System) (e : Event) : Prop := .opened ∈ s.marks e ∨ .cleared ∈ s.marks e

theorem recent_of_begins {s t : System} {e : Event} {effects : List Effect} (hs : s.state.Sound)
    (hbegins : s.Begins e) (h : s.apply e = some (t, effects)) : t.state.seen.recent = [] := by
  have hthrough : (s.state.through (s.section? e)).seen.recent = [] := by
    unfold Begins marks at hbegins
    cases hsection : s.section? e with
    | none =>
        rw [hsection] at hbegins
        rcases hbegins with h | h <;> exact absurd h List.not_mem_nil
    | some c =>
        rw [hsection] at hbegins
        exact Section.recent_of_begins hs hbegins
  rcases state_of_apply h with heq | heq
  · rw [heq]
    exact hthrough
  · rw [heq]
    exact hthrough

/-! ## How often a key is surfaced -/

/-- In every run of a new poller, between two surfacings of a key the poller was stopped, a start
was undone or the history was cleared, or at least as many other keys were surfaced as pruning
keeps.  In every stretch of a run that begins with an empty history, makes it forget nowhere and
takes in no more distinct keys than the mark of the history, every key that is taken in is surfaced
once.  And the keys that a closing section surfaces are those of the records whose texts it hands
on to be shown. -/
theorem surfaced_at_most_once :
    (∀ hint events t effects, (new hint).run events = some (t, effects) →
      ∀ first between last k,
        (new hint).log events = first ++ .surfaced k :: (between ++ .surfaced k :: last) →
        (∃ m ∈ between, m.forgets = true) ∨
          ∃ others : List Key, others.Nodup ∧ k ∉ others ∧ retainAfterPrune ≤ others.length ∧
            ∀ x ∈ others, .surfaced x ∈ between) ∧
    (∀ s e s₁ effects stretch t effects', Reachable s → s.Begins e →
      s.apply e = some (s₁, effects) → s₁.run stretch = some (t, effects') →
      (∀ m ∈ s₁.log stretch, m.forgets = false) →
      (Log.takenKeys (s₁.log stretch)).eraseDups.length ≤ highWaterMark →
      ∀ k ∈ Log.takenKeys (s₁.log stretch), (Log.surfacedKeys (s₁.log stretch)).count k = 1) ∧
    (∀ s session hint body fetched texts evicted remaining,
      (State.closeCycle s session hint body).2 = .processed fetched texts evicted remaining →
      ∃ fresh : List Record, fresh.Sublist (Alarm.ofBody body) ∧
        texts = fresh.map (·.render hint) ∧
        (Section.closeCycle session hint body).marks s =
          .taken ((Alarm.ofBody body).map (·.key)) :: (fresh.map (·.key)).map .surfaced) := by
  refine ⟨?_, ?_, ?_⟩
  · intro hint events t effects hrun first between last k hlog
    have hsplit : (new hint).log events =
        (first ++ .surfaced k :: between) ++ .surfaced k :: last := by
      rw [hlog, List.append_assoc, List.cons_append]
    have hfresh : Log.Fresh ([] ++ (first ++ .surfaced k :: between)) k :=
      fresh_of_run State.sound_initial Log.remembers_nil hrun hsplit
    exact Log.displaced_of_fresh hfresh
  · intro s e s₁ effects stretch t effects' hreach hbegins happly hrun hkept hfew k hk
    have hsound := sound_of_reachable hreach
    have hstart : Log.Keeps [] s₁.state.seen.recent := by
      rw [recent_of_begins hsound hbegins happly]
      exact Log.keeps_nil
    have hkeeps := keeps_of_run (sound_of_apply hsound happly) hstart hrun hkept
      fun keys hnodup hsub =>
        Nat.le_trans (hnodup.length_le_of_subset fun x hx => List.mem_eraseDups.mpr (hsub hx)) hfew
    have hfinal := sound_of_reachable ((hreach.apply happly).run hrun)
    exact hkeeps.count_surfacedKeys hfinal.seen_sound.nodup hk
  · intro s session hint body fetched texts evicted remaining h
    exact Section.marks_of_processed h

/-- Two requests on their way at once: the second reply comes first and holds an alarm twice, the
first reply holds it again. -/
def overlappingReplies : List Event :=
  [.step 0, .tick (.ofMillis 200), .poll, .step 1, .deliver 1 (.body "[1, 1]"), .step 1,
    .deliver 0 (.body "[2, 1]"), .step 0]

theorem surfaced_once_in_overlapping_replies :
    ∃ s s₁ t before effects effects',
      (new "").run [.start .none] = some (s, before) ∧ s.apply (.step 0) = some (s₁, effects) ∧
      s₁.run overlappingReplies = some (t, effects') ∧
      Log.takenKeys (s₁.log overlappingReplies) = ["1", "1", "2", "1"] ∧
      (Log.surfacedKeys (s₁.log overlappingReplies)).count "1" = 1 := by
  refine ⟨_, _, _, _, _, _, rfl, rfl, rfl, rfl, ?_⟩
  have hreach : Reachable _ := ⟨"", [.start .none], _, rfl⟩
  refine surfaced_at_most_once.2.1 _ (.step 0) _ _ overlappingReplies _ _ hreach ?_ rfl rfl ?_ ?_
    "1" ?_
  · exact Or.inl (List.mem_singleton.mpr rfl)
  · decide +kernel
  · decide +kernel
  · decide +kernel

end System

end AlarmMonitor.Polling
