import Mathlib.Data.List.Basic
import Mathlib.Data.List.Induction
import AlarmMonitor.Proofs.Polling.History

/-!
# How long a history holds a key

A history may be added to, pruned and cleared in any order.  Which keys it holds then, and in which
order, is read off what was done to it.

* `History.perform`, `History.added`: what comes of a row of acts, and the keys that they add;
* `History.Lasts`: nothing has made a history lose a key since it was added;
* `Lasts.recent`: as long as that is so, exactly the keys added later are newer;
* `first_in_first_out`: a history with any bounds holds the keys that last, in the order in which
  they were added, and says so in each of its answers.
-/

set_option autoImplicit false

namespace AlarmMonitor.Polling

open AlarmMonitor.Alarm (Key)

namespace History

/-! ## Acts -/

/-- What can be done to a history. -/
inductive Act where
  | insert (k : Key)
  | prune
  | clear
  deriving DecidableEq, Repr

/-- The history behind an act. -/
def Act.apply (h : History) : Act → History
  | .insert k => (h.insert k).1
  | .prune => h.prune.1
  | .clear => h.clear

/-- The key that an act adds, if it adds one. -/
def Act.added (h : History) : Act → List Key
  | .insert k => if (h.insert k).2 then [k] else []
  | .prune | .clear => []

/-- The history behind a row of acts. -/
def perform (h : History) (acts : List Act) : History := acts.foldl Act.apply h

/-- The keys that a row of acts adds, in order. -/
def added (h : History) : List Act → List Key
  | [] => []
  | a :: rest => a.added h ++ (a.apply h).added rest

/-- The history behind a row of acts on an empty one with these bounds. -/
def ofActs (highWater retain : Nat) (acts : List Act) : History :=
  (withBounds highWater retain).perform acts

theorem perform_append (h : History) (first later : List Act) :
    h.perform (first ++ later) = (h.perform first).perform later := List.foldl_append

theorem perform_concat (h : History) (acts : List Act) (a : Act) :
    h.perform (acts ++ [a]) = a.apply (h.perform acts) := perform_append h acts [a]

theorem added_concat (h : History) (acts : List Act) (a : Act) :
    h.added (acts ++ [a]) = h.added acts ++ a.added (h.perform acts) := by
  induction acts generalizing h with
  | nil => exact List.append_nil _
  | cons x rest ih =>
      have hrest : (x.apply h).added (rest ++ [a]) = _ := ih (x.apply h)
      exact (congrArg (x.added h ++ ·) hrest).trans (List.append_assoc _ _ _).symm

/-! ## One act -/

theorem sound_withBounds (highWater retain : Nat) : (withBounds highWater retain).Sound where
  mem_index_iff k := sound_empty.mem_index_iff k
  nodup := List.nodup_nil

theorem Act.sound_apply {h : History} (hs : h.Sound) (a : Act) : (a.apply h).Sound := by
  cases a with
  | insert k => exact sound_insert hs k
  | prune => exact sound_prune hs
  | clear => exact sound_clear h

theorem Act.bounds_apply (h : History) (a : Act) : (a.apply h).bounds = h.bounds := by
  cases a with
  | insert k => exact bounds_insert h k
  | prune => exact bounds_prune h
  | clear => rfl

theorem sound_perform {h : History} (hs : h.Sound) (acts : List Act) : (h.perform acts).Sound := by
  induction acts generalizing h with
  | nil => exact hs
  | cons a rest ih => exact ih (Act.sound_apply hs a)

@[simp] theorem bounds_perform (h : History) (acts : List Act) :
    (h.perform acts).bounds = h.bounds := by
  induction acts generalizing h with
  | nil => rfl
  | cons a rest ih => exact (ih (a.apply h)).trans (a.bounds_apply h)

theorem highWater_perform (h : History) (acts : List Act) :
    (h.perform acts).highWater = h.highWater := congrArg Prod.fst (bounds_perform h acts)

theorem retain_perform (h : History) (acts : List Act) :
    (h.perform acts).retain = h.retain := congrArg Prod.snd (bounds_perform h acts)

theorem contains_iff {h : History} (hs : h.Sound) {k : Key} :
    h.contains k = true ↔ k ∈ h.recent := hs.mem_index_iff k

theorem not_contains_iff {h : History} (hs : h.Sound) {k : Key} :
    h.contains k = false ↔ k ∉ h.recent := by
  rw [← contains_iff hs, Bool.not_eq_true]

theorem added_insert_of_mem {h : History} (hs : h.Sound) {k : Key} (hk : k ∈ h.recent) :
    (Act.insert k).added h = [] := by
  simp only [Act.added, insert_of_mem hs hk, Bool.false_eq_true, if_false]

theorem added_insert_of_not_mem {h : History} (hs : h.Sound) {k : Key} (hk : k ∉ h.recent) :
    (Act.insert k).added h = [k] := by
  simp only [Act.added, insert_of_not_mem hs hk, if_true]

/-- What an act adds was not known. -/
theorem Act.not_mem_added {h : History} (hs : h.Sound) {k : Key} (hk : k ∈ h.recent) (a : Act) :
    k ∉ a.added h := by
  cases a with
  | insert x =>
      by_cases hx : x ∈ h.recent
      · rw [added_insert_of_mem hs hx]
        exact List.not_mem_nil
      · rw [added_insert_of_not_mem hs hx, List.mem_singleton]
        rintro rfl
        exact hx hk
  | prune | clear => exact List.not_mem_nil

/-- Only the act that is about a key adds it. -/
theorem Act.eq_of_mem_added {h : History} {k x : Key} (hk : k ∈ (Act.insert x).added h) :
    k = x := by
  simp only [Act.added] at hk
  split at hk
  · exact List.mem_singleton.mp hk
  · exact absurd hk List.not_mem_nil

/-- The key that is added stands in front of the others. -/
theorem recent_insert {h : History} (hs : h.Sound) (k : Key) :
    (h.insert k).1.recent = (Act.insert k).added h ++ h.recent := by
  by_cases hk : k ∈ h.recent
  · rw [added_insert_of_mem hs hk, insert_of_mem hs hk]
    rfl
  · rw [added_insert_of_not_mem hs hk, insert_of_not_mem hs hk]
    rfl

theorem recent_insert_of_not_mem {h : History} (hs : h.Sound) {k : Key} (hk : k ∉ h.recent) :
    (h.insert k).1.recent = k :: h.recent := by
  rw [recent_insert hs, added_insert_of_not_mem hs hk]
  rfl

/-- Pruning counts the keys beyond those that it keeps. -/
theorem prune_snd (h : History) :
    h.prune.2 = if h.size ≤ h.highWater then 0 else h.size - h.retain := by
  unfold prune
  split
  · rfl
  · exact List.length_drop

/-- The index holds as many keys as the order. -/
theorem Sound.size_index {h : History} (hs : h.Sound) : h.index.size = h.size := by
  have hnodup : h.index.toList.Nodup :=
    h.index.distinct_toList.imp fun hne heq => hne (Std.LawfulEqCmp.compare_eq_iff_eq.mpr heq)
  have hperm : h.index.toList.Perm h.recent :=
    (List.perm_ext_iff_of_nodup hnodup hs.nodup).mpr fun k => by
      rw [Std.TreeSet.mem_toList, hs.mem_index_iff]
  rw [← Std.TreeSet.length_toList]
  exact hperm.length_eq

/-! ## Keys that last -/

/-- Nothing in a row of acts has made a history lose a key that it held as its newest: it was not
cleared, the key was not added again, and it was not pruned beyond its mark when as many others had
been added since as pruning keeps. -/
structure Lasts (h : History) (k : Key) (later : List Act) : Prop where
  not_cleared : .clear ∉ later
  latest : k ∉ h.added later
  not_displaced : ∀ before after, later = before ++ .prune :: after →
    h.highWater < (h.perform before).size → (h.added before).length < h.retain

theorem lasts_nil (h : History) (k : Key) : h.Lasts k [] where
  not_cleared := List.not_mem_nil
  latest := List.not_mem_nil
  not_displaced before after hsplit := absurd hsplit (by simp)

/-- A row that ends in the act at the mark is the whole row, or the mark lies before its end. -/
theorem concat_eq_append_cons_iff {α : Type} {xs before after : List α} {a b : α} :
    xs ++ [a] = before ++ b :: after ↔
      (xs = before ∧ a = b ∧ after = []) ∨ ∃ front, after = front ++ [a] ∧
        xs = before ++ b :: front := by
  rcases List.eq_nil_or_concat' after with rfl | ⟨front, c, rfl⟩
  · rw [List.append_singleton_inj]
    constructor
    · rintro ⟨rfl, rfl⟩
      exact Or.inl ⟨rfl, rfl, rfl⟩
    · rintro (⟨rfl, rfl, _⟩ | ⟨front, hfront, _⟩)
      · exact ⟨rfl, rfl⟩
      · exact absurd hfront (by simp)
  · rw [← List.cons_append, ← List.append_assoc, List.append_singleton_inj]
    constructor
    · rintro ⟨rfl, rfl⟩
      exact Or.inr ⟨front, rfl, rfl⟩
    · rintro (⟨_, _, hnil⟩ | ⟨front', hfront, rfl⟩)
      · exact absurd hnil (by simp)
      · obtain ⟨rfl, rfl⟩ := List.append_singleton_inj.mp hfront
        exact ⟨rfl, rfl⟩

/-- What one more act must not do for a key to last. -/
theorem lasts_concat_iff {h : History} {k : Key} {later : List Act} {a : Act} :
    h.Lasts k (later ++ [a]) ↔
      h.Lasts k later ∧ a ≠ .clear ∧ k ∉ a.added (h.perform later) ∧
        (a = .prune → h.highWater < (h.perform later).size → (h.added later).length < h.retain) := by
  constructor
  · intro hl
    have hadded := hl.latest
    rw [added_concat, List.mem_append, not_or] at hadded
    refine ⟨⟨?_, hadded.1, ?_⟩, ?_, hadded.2, ?_⟩
    · exact fun hmem => hl.not_cleared (List.mem_append_left _ hmem)
    · rintro before after rfl
      exact hl.not_displaced before (after ++ [a]) (by simp)
    · rintro rfl
      exact hl.not_cleared (List.mem_append_right _ List.mem_cons_self)
    · rintro rfl
      exact hl.not_displaced later [] rfl
  · rintro ⟨hl, hclear, hadded, hprune⟩
    refine ⟨?_, ?_, ?_⟩
    · rw [List.mem_append, List.mem_singleton]
      exact not_or.mpr ⟨hl.not_cleared, hclear.symm⟩
    · rw [added_concat, List.mem_append]
      exact not_or.mpr ⟨hl.latest, hadded⟩
    · intro before after hsplit
      rcases concat_eq_append_cons_iff.mp hsplit with ⟨rfl, ha, _⟩ | ⟨front, _, hfront⟩
      · exact hprune ha
      · exact hl.not_displaced before front hfront

/-- Behind a key that lasts, exactly the keys that were added later are newer. -/
theorem Lasts.recent {h : History} {k : Key} {later : List Act} {older : List Key}
    (hs : h.Sound) (hnewest : h.recent = k :: older) (hl : h.Lasts k later) :
    ∃ rest, (h.perform later).recent = (h.added later).reverse ++ k :: rest := by
  induction later using List.reverseRecOn with
  | nil => exact ⟨older, hnewest⟩
  | append_singleton later a ih =>
      obtain ⟨hl, hclear, _, hprune⟩ := lasts_concat_iff.mp hl
      obtain ⟨rest, hrest⟩ := ih hl
      have hsound := sound_perform hs later
      rw [perform_concat, added_concat, List.reverse_append]
      cases a with
      | insert x =>
          refine ⟨rest, ?_⟩
          rw [Act.apply, recent_insert hsound, hrest, List.append_assoc]
          by_cases hx : x ∈ (h.perform later).recent
          · rw [added_insert_of_mem hsound hx]
            rfl
          · rw [added_insert_of_not_mem hsound hx]
            rfl
      | clear => exact absurd rfl hclear
      | prune =>
          have hcut := recent_prune (h.perform later)
          rw [highWater_perform, retain_perform] at hcut
          by_cases hle : (h.perform later).size ≤ h.highWater
          · rw [if_pos hle] at hcut
            exact ⟨rest, hcut.trans hrest⟩
          · -- fewer keys are newer than pruning keeps
            have hfew := hprune rfl (Nat.lt_of_not_le hle)
            obtain ⟨n, hn⟩ := Nat.exists_eq_add_of_lt hfew
            rw [if_neg hle, hrest, hn, ← List.length_reverse, Nat.add_assoc,
              List.take_length_add_append] at hcut
            exact ⟨rest.take n, hcut⟩

/-- A key that lasts is held. -/
theorem Lasts.mem {h : History} {k : Key} {later : List Act} {older : List Key} (hs : h.Sound)
    (hnewest : h.recent = k :: older) (hl : h.Lasts k later) : k ∈ (h.perform later).recent := by
  obtain ⟨rest, hrest⟩ := hl.recent hs hnewest
  rw [hrest]
  exact List.mem_append_right _ List.mem_cons_self

/-- A key that is held behind an act still lasts, if it lasted before. -/
theorem Lasts.concat {h : History} {k : Key} {later : List Act} {a : Act} {older : List Key}
    (hs : h.Sound) (hnewest : h.recent = k :: older) (hl : h.Lasts k later)
    (hk : k ∈ (a.apply (h.perform later)).recent) : h.Lasts k (later ++ [a]) := by
  have hsound := sound_perform hs later
  refine lasts_concat_iff.mpr ⟨hl, ?_, ?_, ?_⟩
  · rintro rfl
    exact absurd hk List.not_mem_nil
  · exact Act.not_mem_added hsound (hl.mem hs hnewest) a
  · rintro rfl hlarge
    by_contra hfew
    obtain ⟨rest, hrest⟩ := hl.recent hs hnewest
    rw [Act.apply, recent_prune, highWater_perform, retain_perform,
      if_neg (Nat.not_le_of_lt hlarge), hrest,
      List.take_append_of_le_length (by rw [List.length_reverse]; omega)] at hk
    exact hl.latest (List.mem_reverse.mp (List.mem_of_mem_take hk))

/-- A history that was empty holds no key but those that last. -/
theorem exists_lasts {h : History} (hs : h.Sound) (hempty : h.recent = []) {acts : List Act}
    {k : Key} (hk : k ∈ (h.perform acts).recent) :
    ∃ first later, acts = first ++ .insert k :: later ∧ k ∉ (h.perform first).recent ∧
      ((h.perform first).insert k).1.Lasts k later := by
  induction acts using List.reverseRecOn with
  | nil =>
      have hnil : k ∈ h.recent := hk
      rw [hempty] at hnil
      exact absurd hnil List.not_mem_nil
  | append_singleton acts a ih =>
      rw [perform_concat] at hk
      by_cases hbefore : k ∈ (h.perform acts).recent
      · obtain ⟨first, later, rfl, hnew, hl⟩ := ih hbefore
        refine ⟨first, later ++ [a], by simp, hnew, ?_⟩
        rw [perform_append] at hk
        have hsound := sound_perform hs first
        exact hl.concat (sound_insert hsound k) (recent_insert_of_not_mem hsound hnew) hk
      · -- the key came with this act
        have hsound := sound_perform hs acts
        cases a with
        | insert x =>
            have hx : k ∈ (Act.insert x).added (h.perform acts) := by
              rw [Act.apply, recent_insert hsound] at hk
              exact (List.mem_append.mp hk).resolve_right hbefore
            obtain rfl := Act.eq_of_mem_added hx
            exact ⟨acts, [], rfl, hbefore, lasts_nil _ k⟩
        | prune =>
            rw [Act.apply, recent_prune] at hk
            split at hk
            · exact absurd hk hbefore
            · exact absurd (List.mem_of_mem_take hk) hbefore
        | clear => exact absurd hk List.not_mem_nil

/-- A history that was empty holds exactly the keys that last. -/
theorem contains_perform_iff {h : History} (hs : h.Sound) (hempty : h.recent = [])
    (acts : List Act) (k : Key) :
    (h.perform acts).contains k = true ↔
      ∃ first later, acts = first ++ .insert k :: later ∧ (h.perform first).contains k = false ∧
        ((h.perform first).insert k).1.Lasts k later := by
  rw [contains_iff (sound_perform hs acts)]
  constructor
  · intro hk
    obtain ⟨first, later, hacts, hnew, hl⟩ := exists_lasts hs hempty hk
    exact ⟨first, later, hacts, (not_contains_iff (sound_perform hs first)).mpr hnew, hl⟩
  · rintro ⟨first, later, rfl, hnew, hl⟩
    have hsound := sound_perform hs first
    have hnewest := recent_insert_of_not_mem hsound ((not_contains_iff hsound).mp hnew)
    have hmem := hl.mem (sound_insert hsound k) hnewest
    rw [perform_append]
    exact hmem

/-! ## The answers of a history -/

/-- Adding a key says whether it was new.  A key that is known changes nothing, and a new one
becomes the newest. -/
theorem insert_answers {h : History} (hs : h.Sound) (k : Key) :
    (h.insert k).2 = !h.contains k ∧ (h.contains k = true → (h.insert k).1 = h) ∧
      (h.contains k = false → (h.insert k).1.toList = h.toList ++ [k]) := by
  refine ⟨?_, ?_, ?_⟩
  · unfold insert contains
    split
    · rename_i hk
      rw [hk, Bool.not_true]
    · rename_i hk
      rw [Bool.eq_false_iff.mpr hk, Bool.not_false]
  · intro hk
    rw [insert_of_mem hs ((contains_iff hs).mp hk)]
  · intro hk
    rw [toList, recent_insert_of_not_mem hs ((not_contains_iff hs).mp hk), List.reverse_cons]
    rfl

/-- Pruning a history beyond its mark leaves its newest keys, in order, and says how many it
forgot. -/
theorem prune_answers {h : History} (hlarge : h.highWater < h.size) :
    h.retain ≤ h.size ∧ h.prune.2 = h.size - h.retain ∧
      h.prune.1.toList = h.toList.drop (h.size - h.retain) := by
  have hle : ¬ h.size ≤ h.highWater := Nat.not_le_of_lt hlarge
  refine ⟨Nat.le_trans h.retain_le (Nat.le_of_lt hlarge), ?_, ?_⟩
  · rw [prune_snd, if_neg hle]
  · rw [toList, recent_prune, if_neg hle, List.reverse_take]
    rfl

/-- Whatever is done to a history that was empty, with whatever bounds: its index and its order hold
the same keys, each of them once, and agree on their number.  It holds a key exactly if the key was
added at some point and lasts since then.  Adding a key answers whether it was unknown, and leaves a
known one at its age.  Pruning does nothing up to the mark; beyond it as many keys are there as it
keeps, it answers how many are more, and it leaves the newest in their order. -/
theorem first_in_first_out (highWater retain : Nat) (acts : List Act) :
    ((ofActs highWater retain acts).highWater = highWater ∧
      (ofActs highWater retain acts).retain = min retain highWater) ∧
    ((∀ k, k ∈ (ofActs highWater retain acts).index ↔ k ∈ (ofActs highWater retain acts).toList) ∧
      (ofActs highWater retain acts).toList.Nodup ∧
      (ofActs highWater retain acts).toList.length = (ofActs highWater retain acts).size ∧
      (ofActs highWater retain acts).index.size = (ofActs highWater retain acts).size) ∧
    (∀ k, (ofActs highWater retain acts).contains k = true ↔
      ∃ first later, acts = first ++ .insert k :: later ∧
        (ofActs highWater retain first).contains k = false ∧
        (ofActs highWater retain (first ++ [.insert k])).Lasts k later) ∧
    (∀ k, ((ofActs highWater retain acts).insert k).2 =
        !(ofActs highWater retain acts).contains k ∧
      ((ofActs highWater retain acts).contains k = true →
        ((ofActs highWater retain acts).insert k).1 = ofActs highWater retain acts) ∧
      ((ofActs highWater retain acts).contains k = false →
        ((ofActs highWater retain acts).insert k).1.toList =
          (ofActs highWater retain acts).toList ++ [k])) ∧
    ((ofActs highWater retain acts).size ≤ highWater →
      (ofActs highWater retain acts).prune = (ofActs highWater retain acts, 0)) ∧
    (highWater < (ofActs highWater retain acts).size →
      min retain highWater ≤ (ofActs highWater retain acts).size ∧
      (ofActs highWater retain acts).prune.2 =
        (ofActs highWater retain acts).size - min retain highWater ∧
      (ofActs highWater retain acts).prune.1.toList =
        (ofActs highWater retain acts).toList.drop
          ((ofActs highWater retain acts).size - min retain highWater)) := by
  have hs : (ofActs highWater retain acts).Sound :=
    sound_perform (sound_withBounds highWater retain) acts
  have hmark : (ofActs highWater retain acts).highWater = highWater := highWater_perform _ acts
  have hkept : (ofActs highWater retain acts).retain = min retain highWater :=
    retain_perform _ acts
  refine ⟨⟨hmark, hkept⟩, ⟨?_, ?_, ?_, hs.size_index⟩, ?_, insert_answers hs, ?_, ?_⟩
  · intro k
    rw [hs.mem_index_iff, toList, List.mem_reverse]
  · exact (List.reverse_perm _).nodup_iff.mpr hs.nodup
  · exact List.length_reverse
  · intro k
    simp only [ofActs, perform_concat]
    exact contains_perform_iff (sound_withBounds highWater retain) rfl acts k
  · intro hle
    exact prune_of_size_le (hmark.symm ▸ hle)
  · intro hlarge
    rw [← hkept]
    exact prune_answers (hmark.symm ▸ hlarge)

/-- Five keys are added to a history that keeps two of them beyond a mark of four, and the first
comes again behind the pruning. -/
def fiveAdded : List Act :=
  [.insert "a", .insert "b", .insert "c", .insert "d", .insert "e", .prune, .insert "d", .insert "a"]

theorem first_in_first_out_of_fiveAdded :
    (ofActs 4 2 fiveAdded).toList = ["d", "e", "a"] ∧
      ((ofActs 4 2 fiveAdded).insert "b").2 = true ∧
      ∃ first later, fiveAdded = first ++ .insert "d" :: later ∧
        (ofActs 4 2 first).contains "d" = false ∧
        (ofActs 4 2 (first ++ [.insert "d"])).Lasts "d" later := by
  obtain ⟨_, _, hcontains, hinsert, _⟩ := first_in_first_out 4 2 fiveAdded
  refine ⟨by decide +kernel, ?_, (hcontains "d").mp (by decide +kernel)⟩
  rw [(hinsert "b").1]
  decide +kernel

end History

end AlarmMonitor.Polling
