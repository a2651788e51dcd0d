import AlarmMonitor.Simulation.Board

/-!
# The law of subscriptions

A board answers the calls of its users one after the other.  What a subscriber is told depends only
on what was called and answered before: it is told of the status exactly if a call has changed it
since the subscription was taken or was last told.

* `Call`, `Answer`, `Board.apply`, `Board.run`: calls of any users, in any order;
* `Board.Step`: what a call can come to;
* `Ledger`, `ledger`: what a record of calls and answers says about one subscription;
* `Kept`: how the board agrees with the record; `Kept.apply` for one call, `Kept.run` for many;
* `Alike`: boards that differ only in how far one subscriber has looked;
* `subscription_law`: what every subscriber is told.
-/

set_option autoImplicit false

namespace AlarmMonitor

/-! ## The cell -/

namespace Install.Cell

theorem value_set (c : Cell) (v : Status) : (c.set v).1.value = v := by
  unfold set
  split
  · assumption
  · rfl

theorem version_set (c : Cell) (v : Status) :
    (c.set v).1.version = if (c.set v).2 = true then c.version + 1 else c.version := by
  unfold set
  split <;> rfl

theorem handles_set (c : Cell) (v : Status) : (c.set v).1.handles = c.handles := by
  unfold set
  split <;> rfl

/-- Only another status is a change. -/
theorem flag_set (c : Cell) (v : Status) : (c.set v).2 = decide (c.value ≠ v) := by
  unfold set
  split
  · rename_i h
    exact (decide_eq_false (fun hne => hne h)).symm
  · rename_i h
    exact (decide_eq_true h).symm

/-- A set of the same status leaves the cell as it is. -/
theorem set_value (c : Cell) : (c.set c.value).1 = c := by
  rw [set, if_pos rfl]

end Install.Cell

namespace Simulation

open AlarmMonitor.Install (Cell Status Subscription Look)

namespace Board

/-! ## Calls -/

/-- A call through a handle or a subscription. -/
inductive Call where
  | set (handle : String) (v : Status)
  | clone (handle copy : String)
  | drop (handle : String)
  | subscribe (handle name : String)
  | unsubscribe (name : String)
  /-- Reads the status, without a look for a transition. -/
  | current (name : String)
  /-- Asks once whether there is a transition. -/
  | changed (name : String)
  deriving DecidableEq, Repr

/-- What a call comes to. -/
inductive Answer where
  /-- There is no such handle or subscription. -/
  | missing
  | done
  /-- Did the call change something? -/
  | flag (changed : Bool)
  | status (v : Status)
  | pending
  | closed
  deriving DecidableEq, Repr

/-- A record of calls and their answers. -/
abbrev Record := List (Call × Answer)

/-- Does the call only read, through the subscription of that name? -/
def Call.reads (name : String) : Call → Bool
  | .current m | .changed m => m = name
  | _ => false

/-- One call. -/
def apply (b : Board) : Call → Board × Answer
  | .set handle v =>
    if b.has handle then ((b.set [v]).1, .flag (b.cell.set v).2) else (b, .missing)
  | .clone handle copy => if b.has handle then (b.clone copy, .done) else (b, .missing)
  | .drop handle => ((b.drop handle).1, .flag (b.drop handle).2)
  | .subscribe handle name =>
    if b.has handle then (b.subscribe name, .done) else (b, .missing)
  | .unsubscribe name => ((b.unsubscribe name).1, .flag (b.unsubscribe name).2)
  | .current name =>
    match b.subscription? name with
    | none => (b, .missing)
    | some _ => (b, .status b.cell.value)
  | .changed name =>
    match b.subscription? name with
    | none => (b, .missing)
    | some sub =>
      match b.look name sub with
      | (b, .changed v _) => (b, .status v)
      | (b, .pending) => (b, .pending)
      | (b, .closed) => (b, .closed)

/-- Calls one after the other, and their record. -/
def run (b : Board) : List Call → Board × Record
  | [] => (b, [])
  | c :: rest =>
    let (b, a) := b.apply c
    let (b, later) := b.run rest
    (b, (c, a) :: later)

/-! ## Records -/

/-- The status that a call has set. -/
def written? : Call × Answer → Option Status
  | (.set _ v, .flag _) => some v
  | _ => none

/-- The status behind a record. -/
def latest (initial : Status) (record : Record) : Status :=
  record.foldl (fun v x => (written? x).getD v) initial

/-- What a record says about the subscription of a name. -/
structure Ledger where
  /-- Is there one? -/
  taken : Bool
  /-- Changes of the status since it was taken or last told. -/
  unread : Nat
  /-- Changes of the status since it was taken. -/
  changes : Nat
  /-- How often it was told since it was taken. -/
  told : Nat
  deriving DecidableEq, Repr

/-- Enters a call and its answer. -/
def Ledger.enter (name : String) (l : Ledger) : Call × Answer → Ledger
  | (.set _ _, .flag true) => { l with unread := l.unread + 1, changes := l.changes + 1 }
  | (.subscribe _ m, .done) => if m = name then ⟨true, 0, 0, 0⟩ else l
  | (.unsubscribe m, _) => if m = name then { l with taken := false } else l
  | (.changed m, .status _) => if m = name then { l with unread := 0, told := l.told + 1 } else l
  | _ => l

/-- The ledger of a record. -/
def ledger (name : String) (record : Record) : Ledger :=
  record.foldl (Ledger.enter name) ⟨false, 0, 0, 0⟩

/-- The answers to the questions of a subscriber. -/
def answers (name : String) (record : Record) : List Answer :=
  record.filterMap fun
    | (.changed m, a) => if m = name then some a else none
    | _ => none

theorem latest_append (initial : Status) (record : Record) (x : Call × Answer) :
    latest initial (record ++ [x]) = (written? x).getD (latest initial record) := by
  simp [latest]

theorem ledger_append (name : String) (record : Record) (x : Call × Answer) :
    ledger name (record ++ [x]) = (ledger name record).enter name x := by
  simp [ledger]

/-! ## Single calls -/

theorem run_cons (b : Board) (c : Call) (rest : List Call) :
    b.run (c :: rest) =
      (((b.apply c).1.run rest).1, (c, (b.apply c).2) :: ((b.apply c).1.run rest).2) := rfl

theorem set_one (b : Board) (v : Status) : (b.set [v]).1 = { b with cell := (b.cell.set v).1 } :=
  rfl

theorem subscription?_unsubscribe (b : Board) (name other : String) :
    (b.unsubscribe name).1.subscription? other =
      if other = name then none else b.subscription? other := by
  simp only [unsubscribe, subscription?, List.find?_filter]
  split
  · rename_i hsame
    subst hsame
    simp
  · rename_i hother
    congr 2
    funext p
    by_cases hp : p.1 = other
    · simp [hp, hother]
    · simp [hp]

theorem subscription?_subscribe (b : Board) (name other : String) :
    (b.subscribe name).subscription? other =
      if other = name then some b.cell.subscribe else b.subscription? other := by
  have hrest := b.subscription?_unsubscribe name other
  unfold subscription? at hrest ⊢
  rw [subscribe, List.find?_append, Option.map_or, hrest]
  split
  · rename_i hsame
    simp [hsame, unsubscribe]
  · rename_i hother
    have hnot : ¬ name = other := fun h => hother h.symm
    simp [hnot]

theorem subscription?_drop (b : Board) (handle name : String) :
    (b.drop handle).1.subscription? name = b.subscription? name := by
  unfold drop
  split <;> rfl

theorem version_drop (b : Board) (handle : String) :
    (b.drop handle).1.cell.version = b.cell.version := by
  unfold drop
  split <;> rfl

theorem value_drop (b : Board) (handle : String) :
    (b.drop handle).1.cell.value = b.cell.value := by
  unfold drop
  split <;> rfl

theorem subscription?_clone (b : Board) (copy name : String) :
    (b.clone copy).subscription? name = b.subscription? name :=
  subscription?_drop { b with cell := b.cell.retain } copy name

theorem version_clone (b : Board) (copy : String) :
    (b.clone copy).cell.version = b.cell.version :=
  version_drop { b with cell := b.cell.retain } copy

theorem value_clone (b : Board) (copy : String) : (b.clone copy).cell.value = b.cell.value :=
  value_drop { b with cell := b.cell.retain } copy

/-- The board behind a subscriber that was told. -/
def tell (b : Board) (name : String) : Board :=
  { b with subscriptions := b.subscriptions.map fun p =>
      if p.1 = name then (name, b.cell.subscribe) else p }

theorem apply_current (b : Board) (name : String) :
    b.apply (.current name) =
      (b, if (b.subscription? name).isSome then .status b.cell.value else .missing) := by
  rw [apply]
  cases b.subscription? name with
  | none => rfl
  | some sub => rfl

theorem apply_changed_of_none {b : Board} {name : String} (h : b.subscription? name = none) :
    b.apply (.changed name) = (b, .missing) := by
  simp only [apply, h]

/-- A question is answered by what the subscriber has not seen yet. -/
theorem apply_changed {b : Board} {name : String} {sub : Subscription}
    (h : b.subscription? name = some sub) :
    b.apply (.changed name) =
      if b.cell.version = sub.seen then (b, if b.cell.handles = 0 then .closed else .pending)
      else (b.tell name, .status b.cell.value) := by
  by_cases hseen : b.cell.version = sub.seen
  · by_cases hclosed : b.cell.handles = 0
    · simp [apply, h, look, Cell.look, hseen, hclosed]
    · simp [apply, h, look, Cell.look, hseen, hclosed]
  · simp [apply, h, look, Cell.look, hseen, tell, Cell.subscribe]

/-- A subscriber that was told has seen every change; the others stay where they are. -/
theorem subscription?_tell (b : Board) (name other : String) :
    (b.tell name).subscription? other =
      if other = name then (b.subscription? name).map fun _ => b.cell.subscribe
      else b.subscription? other := by
  have hsame : ∀ p : String × Subscription,
      (if p.1 = name then (name, b.cell.subscribe) else p).1 = p.1 := by
    intro p
    split
    · rename_i h
      exact h.symm
    · rfl
  simp only [subscription?, tell, List.find?_map, Function.comp_def, hsame, Option.map_map]
  cases hfind : b.subscriptions.find? (fun p => decide (p.1 = other)) with
  | none =>
      split
      · rename_i h
        rw [← h, hfind]
        rfl
      · rfl
  | some p =>
      have hname : p.1 = other := by simpa using List.find?_some hfind
      split
      · rename_i h
        rw [← h, hfind]
        simp [hname, h]
      · rename_i h
        simp [hname, h]

/-- The call neither sets the status nor makes a difference to any ledger. -/
def Quiet (x : Call × Answer) : Prop := written? x = none ∧ ∀ name l, Ledger.enter name l x = l

/-- What a call can come to: the board and the answer behind it. -/
inductive Step (b : Board) : Call → Board → Answer → Prop where
  | stays {c : Call} {a : Answer} (hquiet : Quiet (c, a)) : Step b c b a
  | set {handle : String} {v : Status} (hhas : b.has handle = true) :
      Step b (.set handle v) (b.set [v]).1 (.flag (b.cell.set v).2)
  | clone {handle copy : String} (hhas : b.has handle = true) :
      Step b (.clone handle copy) (b.clone copy) .done
  | drop {handle : String} : Step b (.drop handle) (b.drop handle).1 (.flag (b.drop handle).2)
  | subscribe {handle name : String} (hhas : b.has handle = true) :
      Step b (.subscribe handle name) (b.subscribe name) .done
  | unsubscribe {name : String} :
      Step b (.unsubscribe name) (b.unsubscribe name).1 (.flag (b.unsubscribe name).2)
  | tell {name : String} {sub : Subscription} (hsub : b.subscription? name = some sub)
      (hnew : b.cell.version ≠ sub.seen) :
      Step b (.changed name) (b.tell name) (.status b.cell.value)

theorem step_of_apply (b : Board) (c : Call) : b.Step c (b.apply c).1 (b.apply c).2 := by
  cases c with
  | set handle v =>
      rw [apply]
      split
      · rename_i hhas
        exact .set hhas
      · exact .stays ⟨rfl, fun _ _ => rfl⟩
  | clone handle copy =>
      rw [apply]
      split
      · rename_i hhas
        exact .clone hhas
      · exact .stays ⟨rfl, fun _ _ => rfl⟩
  | drop handle => exact .drop
  | subscribe handle name =>
      rw [apply]
      split
      · rename_i hhas
        exact .subscribe hhas
      · exact .stays ⟨rfl, fun _ _ => rfl⟩
  | unsubscribe name => exact .unsubscribe
  | current name =>
      rw [apply_current]
      exact .stays ⟨rfl, fun _ _ => rfl⟩
  | changed name =>
      cases hsub : b.subscription? name with
      | none =>
          rw [apply_changed_of_none hsub]
          exact .stays ⟨rfl, fun _ _ => rfl⟩
      | some sub =>
          rw [apply_changed hsub]
          split
          · split
            · exact .stays ⟨rfl, fun _ _ => rfl⟩
            · exact .stays ⟨rfl, fun _ _ => rfl⟩
          · rename_i hnew
            exact .tell hsub hnew

/-! ## Handles -/

/-- The handles that the cell counts are those that the board has. -/
structure Held (b : Board) : Prop where
  count : b.cell.handles = b.handles.length
  nodup : b.handles.Nodup

/-- Dropping a handle takes as many from the cell as from the board. -/
theorem count_drop (b : Board) (extra : Nat) (hnodup : b.handles.Nodup)
    (hcount : b.cell.handles = b.handles.length + extra) (handle : String) :
    (b.drop handle).1.cell.handles = (b.drop handle).1.handles.length + extra := by
  unfold drop
  split
  · rename_i hhas
    have hmem : handle ∈ b.handles := by simpa [has] using hhas
    have herase : b.handles.filter (· ≠ handle) = b.handles.erase handle := by
      rw [hnodup.erase_eq_filter]
      refine List.filter_congr fun h _ => ?_
      by_cases hh : h = handle
      · simp [hh]
      · simp [hh]
    have hpos : 0 < b.handles.length := List.length_pos_of_mem hmem
    simp only [herase, Cell.release, hcount, List.length_erase_of_mem hmem]
    omega
  · exact hcount

theorem handles_drop (b : Board) (handle : String) :
    (b.drop handle).1.handles = b.handles.filter (· ≠ handle) := by
  unfold drop
  split
  · rfl
  · rename_i hhas
    have hnot : handle ∉ b.handles := by simpa [has] using hhas
    symm
    rw [List.filter_eq_self]
    exact fun h hmem => decide_eq_true fun hsame => hnot (hsame ▸ hmem)

theorem Held.drop {b : Board} (hb : b.Held) (handle : String) : (b.drop handle).1.Held where
  count := b.count_drop 0 hb.nodup hb.count handle
  nodup := by
    rw [handles_drop]
    exact hb.nodup.filter _

theorem Held.clone {b : Board} (hb : b.Held) (copy : String) : (b.clone copy).Held := by
  have hcount := count_drop { b with cell := b.cell.retain } 1 hb.nodup
    (congrArg (· + 1) hb.count) copy
  refine ⟨?_, ?_⟩
  · rw [Board.clone, List.length_append]
    exact hcount
  · have hhandles := handles_drop { b with cell := b.cell.retain } copy
    rw [Board.clone, List.nodup_append]
    refine ⟨?_, by simp, ?_⟩
    · rw [hhandles]
      exact hb.nodup.filter _
    · rw [hhandles]
      intro h hmem other hother
      have hne : h ≠ copy := of_decide_eq_true (List.mem_filter.mp hmem).2
      exact fun hsame => hne (hsame.trans (List.mem_singleton.mp hother))

theorem Held.apply {b : Board} (hb : b.Held) (c : Call) : (b.apply c).1.Held := by
  have hstep := b.step_of_apply c
  generalize (b.apply c).1 = next, (b.apply c).2 = a at hstep
  cases hstep with
  | stays => exact hb
  | set => exact ⟨(b.cell.handles_set _).trans hb.count, hb.nodup⟩
  | clone => exact hb.clone _
  | drop => exact hb.drop _
  | subscribe | unsubscribe | tell => exact ⟨hb.count, hb.nodup⟩

/-! ## The record -/

/-- How a board agrees with what the record says about the subscription of a name. -/
structure Agrees (name : String) (l : Ledger) (b : Board) : Prop where
  taken : l.taken = (b.subscription? name).isSome
  unread : ∀ sub, b.subscription? name = some sub → sub.seen + l.unread = b.cell.version
  told : l.told + l.unread ≤ l.changes

theorem Agrees.congr {name : String} {l : Ledger} {b b' : Board} (hb : Agrees name l b)
    (hsub : b'.subscription? name = b.subscription? name)
    (hversion : b'.cell.version = b.cell.version) : Agrees name l b' where
  taken := by rw [hsub]; exact hb.taken
  unread := by rw [hsub, hversion]; exact hb.unread
  told := hb.told

theorem Agrees.set {name : String} {l : Ledger} {b : Board} (hb : Agrees name l b) (handle : String)
    (v : Status) :
    Agrees name (l.enter name (.set handle v, .flag (b.cell.set v).2)) (b.set [v]).1 := by
  have hversion := b.cell.version_set v
  cases hchanged : (b.cell.set v).2 with
  | false =>
      rw [hchanged] at hversion
      exact hb.congr rfl hversion
  | true =>
      rw [hchanged, if_pos rfl] at hversion
      refine ⟨hb.taken, fun sub hsub => ?_, ?_⟩
      · have hunread := hb.unread sub hsub
        rw [set_one, hversion]
        simp only [Ledger.enter]
        omega
      · have htold := hb.told
        simp only [Ledger.enter]
        omega

theorem Agrees.subscribe {name : String} {l : Ledger} {b : Board} (hb : Agrees name l b)
    (handle taken : String) :
    Agrees name (l.enter name (.subscribe handle taken, .done)) (b.subscribe taken) := by
  have hsub := b.subscription?_subscribe taken name
  rw [Ledger.enter]
  by_cases hname : taken = name
  · rw [if_pos hname.symm] at hsub
    rw [if_pos hname]
    refine ⟨by rw [hsub]; rfl, fun sub h => ?_, Nat.le_refl 0⟩
    rw [hsub] at h
    rw [← Option.some.inj h]
    rfl
  · rw [if_neg (Ne.symm hname)] at hsub
    rw [if_neg hname]
    exact hb.congr hsub rfl

theorem Agrees.unsubscribe {name : String} {l : Ledger} {b : Board} (hb : Agrees name l b)
    (given : String) (a : Answer) :
    Agrees name (l.enter name (.unsubscribe given, a)) (b.unsubscribe given).1 := by
  have hsub := b.subscription?_unsubscribe given name
  rw [Ledger.enter]
  by_cases hname : given = name
  · rw [if_pos hname.symm] at hsub
    rw [if_pos hname]
    refine ⟨by rw [hsub]; rfl, fun sub h => ?_, hb.told⟩
    rw [hsub] at h
    exact absurd h nofun
  · rw [if_neg (Ne.symm hname)] at hsub
    rw [if_neg hname]
    exact hb.congr hsub rfl

theorem Agrees.tell {name : String} {l : Ledger} {b : Board} (hb : Agrees name l b)
    {asking : String} {sub : Subscription} (hasking : b.subscription? asking = some sub)
    (hnew : b.cell.version ≠ sub.seen) (v : Status) :
    Agrees name (l.enter name (.changed asking, .status v)) (b.tell asking) := by
  have hsub := b.subscription?_tell asking name
  rw [Ledger.enter]
  by_cases hname : asking = name
  · subst hname
    rw [if_pos rfl, hasking, Option.map_some] at hsub
    rw [if_pos rfl]
    -- there is something to be told, so one more telling stays within the changes
    have hunread := hb.unread sub hasking
    have htold := hb.told
    refine ⟨?_, fun told h => ?_, ?_⟩
    · rw [hb.taken, hasking, hsub]
      rfl
    · rw [hsub] at h
      rw [← Option.some.inj h]
      rfl
    · simp only
      omega
  · rw [if_neg (Ne.symm hname)] at hsub
    rw [if_neg hname]
    exact hb.congr hsub rfl

theorem Agrees.apply {name : String} {l : Ledger} {b : Board} (hb : Agrees name l b) (c : Call) :
    Agrees name (l.enter name (c, (b.apply c).2)) (b.apply c).1 := by
  have hstep := b.step_of_apply c
  generalize (b.apply c).1 = next, (b.apply c).2 = a at hstep
  cases hstep with
  | stays hquiet =>
      rw [hquiet.2]
      exact hb
  | set => exact hb.set _ _
  | clone => exact hb.congr (b.subscription?_clone _ name) (b.version_clone _)
  | drop => exact hb.congr (b.subscription?_drop _ name) (b.version_drop _)
  | subscribe => exact hb.subscribe _ _
  | unsubscribe => exact hb.unsubscribe _ _
  | tell hsub hnew => exact hb.tell hsub hnew _

theorem value_apply (b : Board) (c : Call) :
    (b.apply c).1.cell.value = (written? (c, (b.apply c).2)).getD b.cell.value := by
  have hstep := b.step_of_apply c
  generalize (b.apply c).1 = next, (b.apply c).2 = a at hstep
  cases hstep with
  | stays hquiet =>
      rw [hquiet.1]
      rfl
  | set => exact b.cell.value_set _
  | clone => exact b.value_clone _
  | drop => exact b.value_drop _
  | subscribe | unsubscribe | tell => rfl

/-- How the board agrees with what was called and answered. -/
structure Kept (initial : Status) (record : Record) (b : Board) : Prop where
  held : b.Held
  value : b.cell.value = latest initial record
  told : ∀ name, Agrees name (ledger name record) b

theorem kept_new (initial : Status) (handle : String) :
    Kept initial [] (new initial handle) where
  held := ⟨rfl, by simp [new]⟩
  value := rfl
  told _ := ⟨rfl, nofun, Nat.le_refl 0⟩

/-- One call keeps board and record in agreement. -/
theorem Kept.apply {initial : Status} {record : Record} {b : Board} (hb : Kept initial record b)
    (c : Call) : Kept initial (record ++ [(c, (b.apply c).2)]) (b.apply c).1 where
  held := hb.held.apply c
  value := by
    rw [latest_append, ← hb.value]
    exact b.value_apply c
  told name := by
    rw [ledger_append]
    exact (hb.told name).apply c

theorem Kept.run {initial : Status} {record : Record} {b : Board} (hb : Kept initial record b)
    (calls : List Call) : Kept initial (record ++ (b.run calls).2) (b.run calls).1 := by
  induction calls generalizing record b with
  | nil =>
      rw [Board.run, List.append_nil]
      exact hb
  | cons c rest ih =>
      have hlater := ih (hb.apply c)
      rw [List.append_assoc] at hlater
      exact hlater

theorem kept_of_run (initial : Status) (handle : String) (calls : List Call) :
    Kept initial ((new initial handle).run calls).2 ((new initial handle).run calls).1 :=
  (kept_new initial handle).run calls

/-! ## Reads of one subscriber -/

/-- Boards that differ only in how far the subscriber of a name has looked. -/
structure Alike (name : String) (b b' : Board) : Prop where
  cell : b'.cell = b.cell
  handles : b'.handles = b.handles
  others : ∀ other, other ≠ name → b'.subscription? other = b.subscription? other
  there : (b'.subscription? name).isSome = (b.subscription? name).isSome

/-- A read leaves the boards alike. -/
theorem Alike.read {name : String} {b b' : Board} (h : Alike name b b') {c : Call}
    (hc : c.reads name = true) : Alike name (b.apply c).1 b' := by
  cases c with
  | current asking =>
      rw [apply_current]
      exact h
  | changed asking =>
      obtain rfl : asking = name := of_decide_eq_true hc
      cases hasking : b.subscription? asking with
      | none =>
          rw [apply_changed_of_none hasking]
          exact h
      | some sub =>
          rw [apply_changed hasking]
          split
          · exact h
          · refine ⟨h.cell, h.handles, fun other hother => ?_, ?_⟩
            · rw [subscription?_tell, if_neg hother]
              exact h.others other hother
            · rw [subscription?_tell, if_pos rfl, Option.isSome_map]
              exact h.there
  | set | clone | drop | subscribe | unsubscribe => exact absurd hc nofun

/-- Dropping a handle does not depend on the subscriptions. -/
theorem drop_congr {b b' : Board} (hcell : b'.cell = b.cell) (hhandles : b'.handles = b.handles)
    (handle : String) :
    (b'.drop handle).1.cell = (b.drop handle).1.cell ∧
      (b'.drop handle).1.handles = (b.drop handle).1.handles ∧
      (b'.drop handle).2 = (b.drop handle).2 := by
  have hhas : b'.has handle = b.has handle := by rw [has, has, hhandles]
  unfold drop
  rw [hhas, hcell, hhandles]
  cases b.has handle with
  | true => exact ⟨rfl, rfl, rfl⟩
  | false => exact ⟨hcell, hhandles, rfl⟩

theorem Alike.drop {name : String} {b b' : Board} (h : Alike name b b') (handle : String) :
    Alike name (b.drop handle).1 (b'.drop handle).1 := by
  obtain ⟨hcell, hhandles, _⟩ := drop_congr h.cell h.handles handle
  refine ⟨hcell, hhandles, fun other hother => ?_, ?_⟩
  · rw [subscription?_drop, subscription?_drop]
    exact h.others other hother
  · rw [subscription?_drop, subscription?_drop]
    exact h.there

theorem Alike.clone {name : String} {b b' : Board} (h : Alike name b b') (copy : String) :
    Alike name (b.clone copy) (b'.clone copy) := by
  have hretained : Alike name { b with cell := b.cell.retain } { b' with cell := b'.cell.retain } :=
    ⟨congrArg Cell.retain h.cell, h.handles, h.others, h.there⟩
  have hdropped := hretained.drop copy
  exact ⟨hdropped.cell, congrArg (· ++ [copy]) hdropped.handles, hdropped.others, hdropped.there⟩

theorem Alike.subscribe {name : String} {b b' : Board} (h : Alike name b b') (taken : String) :
    Alike name (b.subscribe taken) (b'.subscribe taken) := by
  refine ⟨h.cell, h.handles, fun other hother => ?_, ?_⟩
  · rw [subscription?_subscribe, subscription?_subscribe, h.cell, h.others other hother]
  · rw [subscription?_subscribe, subscription?_subscribe]
    split
    · rfl
    · exact h.there

theorem Alike.unsubscribe {name : String} {b b' : Board} (h : Alike name b b') (given : String) :
    Alike name (b.unsubscribe given).1 (b'.unsubscribe given).1 := by
  refine ⟨h.cell, h.handles, fun other hother => ?_, ?_⟩
  · rw [subscription?_unsubscribe, subscription?_unsubscribe, h.others other hother]
  · rw [subscription?_unsubscribe, subscription?_unsubscribe]
    split
    · rfl
    · exact h.there

theorem Alike.tell {name asking : String} {b b' : Board} (h : Alike name b b')
    (hasking : asking ≠ name) : Alike name (b.tell asking) (b'.tell asking) := by
  refine ⟨h.cell, h.handles, fun other hother => ?_, ?_⟩
  · rw [subscription?_tell, subscription?_tell, h.others asking hasking, h.others other hother,
      h.cell]
  · rw [subscription?_tell, subscription?_tell, if_neg (Ne.symm hasking),
      if_neg (Ne.symm hasking)]
    exact h.there

/-- Any other call is answered alike. -/
theorem Alike.apply {name : String} {b b' : Board} (h : Alike name b b') {c : Call}
    (hc : c.reads name = false) :
    (b'.apply c).2 = (b.apply c).2 ∧ Alike name (b.apply c).1 (b'.apply c).1 := by
  have hhas : ∀ handle, b'.has handle = b.has handle := by
    intro handle
    rw [has, has, h.handles]
  cases c with
  | set handle v =>
      simp only [Board.apply, hhas, set_one, h.cell]
      split
      · exact ⟨rfl, rfl, h.handles, h.others, h.there⟩
      · exact ⟨rfl, h⟩
  | clone handle copy =>
      simp only [Board.apply, hhas]
      split
      · exact ⟨rfl, h.clone copy⟩
      · exact ⟨rfl, h⟩
  | drop handle =>
      exact ⟨congrArg Answer.flag (drop_congr h.cell h.handles handle).2.2, h.drop handle⟩
  | subscribe handle taken =>
      simp only [Board.apply, hhas]
      split
      · exact ⟨rfl, h.subscribe taken⟩
      · exact ⟨rfl, h⟩
  | unsubscribe given =>
      refine ⟨congrArg Answer.flag ?_, h.unsubscribe given⟩
      show (b'.subscription? given).isSome = (b.subscription? given).isSome
      by_cases hgiven : given = name
      · rw [hgiven]
        exact h.there
      · rw [h.others given hgiven]
  | current asking =>
      have hasking : asking ≠ name := of_decide_eq_false hc
      rw [apply_current, apply_current, h.others asking hasking, h.cell]
      exact ⟨rfl, h⟩
  | changed asking =>
      have hasking : asking ≠ name := of_decide_eq_false hc
      have hsame := h.others asking hasking
      cases hsub : b.subscription? asking with
      | none =>
          rw [hsub] at hsame
          rw [apply_changed_of_none hsub, apply_changed_of_none hsame]
          exact ⟨rfl, h⟩
      | some sub =>
          rw [apply_changed hsub, apply_changed (hsame.trans hsub), h.cell]
          split
          · exact ⟨rfl, h⟩
          · exact ⟨rfl, h.tell hasking⟩

/-- Without the reads of one subscriber, all other calls are answered as they are with them. -/
theorem Alike.run {name : String} {b b' : Board} (h : Alike name b b') (calls : List Call) :
    (b'.run (calls.filter fun c => !c.reads name)).2 =
      (b.run calls).2.filter fun x => !x.1.reads name := by
  induction calls generalizing b b' with
  | nil => rfl
  | cons c rest ih =>
      cases hc : c.reads name with
      | true =>
          rw [List.filter_cons_of_neg (by simp [hc]), run_cons,
            List.filter_cons_of_neg (by simp [hc])]
          exact ih (h.read hc)
      | false =>
          obtain ⟨hanswer, hlater⟩ := h.apply hc
          rw [List.filter_cons_of_pos (by simp [hc]), run_cons, run_cons,
            List.filter_cons_of_pos (by simp [hc]), hanswer]
          exact congrArg _ (ih hlater)

/-! ## Behind the last handle -/

theorem has_of_no_handle {b : Board} (h : b.handles = []) (handle : String) :
    b.has handle ≠ true := by
  rw [has, h]
  exact nofun

theorem drop_of_no_handle {b : Board} (h : b.handles = []) (handle : String) :
    (b.drop handle).1 = b := by
  rw [drop, if_neg (has_of_no_handle h handle)]

/-- Without a handle nothing changes the status any more, and there is no new handle. -/
theorem apply_of_no_handle {b : Board} (h : b.handles = []) (c : Call) :
    (b.apply c).1.cell = b.cell ∧ (b.apply c).1.handles = [] := by
  have hstep := b.step_of_apply c
  generalize (b.apply c).1 = next, (b.apply c).2 = a at hstep
  cases hstep with
  | set hhas | clone hhas | subscribe hhas => exact absurd hhas (has_of_no_handle h _)
  | drop =>
      rw [drop_of_no_handle h]
      exact ⟨rfl, h⟩
  | stays | unsubscribe | tell => exact ⟨rfl, h⟩

/-- Then only its own questions and its end move a subscription. -/
theorem subscription?_of_no_handle {b : Board} (h : b.handles = []) {c : Call} {name : String}
    (hend : c ≠ .unsubscribe name) (hasked : c ≠ .changed name) :
    (b.apply c).1.subscription? name = b.subscription? name := by
  have hstep := b.step_of_apply c
  generalize (b.apply c).1 = next, (b.apply c).2 = a at hstep
  cases hstep with
  | set hhas | clone hhas | subscribe hhas => exact absurd hhas (has_of_no_handle h _)
  | stays => rfl
  | drop => rw [drop_of_no_handle h]
  | unsubscribe =>
      rw [subscription?_unsubscribe, if_neg]
      exact fun hsame => hend (congrArg Call.unsubscribe hsame.symm)
  | tell =>
      rw [subscription?_tell, if_neg]
      exact fun hsame => hasked (congrArg Call.changed hsame.symm)

theorem answers_cons_self (name : String) (a : Answer) (record : Record) :
    answers name ((.changed name, a) :: record) = a :: answers name record := by
  simp [answers]

theorem answers_cons_of_ne {name : String} {c : Call} (hc : c ≠ .changed name) (a : Answer)
    (record : Record) : answers name ((c, a) :: record) = answers name record := by
  cases c with
  | changed asking =>
      have hname : asking ≠ name := fun hsame => hc (hsame ▸ rfl)
      simp [answers, hname]
  | set | clone | drop | subscribe | unsubscribe | current => rfl

/-- A subscriber that has seen everything finds the board closed, however often it asks. -/
theorem closed_of_no_handle {b : Board} {name : String} {sub : Subscription}
    (hclosed : b.cell.handles = 0) (h : b.handles = []) (hsub : b.subscription? name = some sub)
    (hseen : b.cell.version = sub.seen) {calls : List Call} (hkeeps : .unsubscribe name ∉ calls) :
    ∀ a ∈ answers name (b.run calls).2, a = .closed := by
  induction calls generalizing b with
  | nil => exact nofun
  | cons c rest ih =>
      obtain ⟨hcell, hhandles⟩ := apply_of_no_handle h c
      have hend : c ≠ .unsubscribe name := fun hsame => hkeeps (hsame ▸ List.mem_cons_self)
      have hrest : .unsubscribe name ∉ rest := fun hmem => hkeeps (List.mem_cons_of_mem _ hmem)
      have hlater : (b.apply c).1.subscription? name = some sub →
          ∀ a ∈ answers name ((b.apply c).1.run rest).2, a = .closed := fun hnext =>
        ih (hcell ▸ hclosed) hhandles hnext (hcell ▸ hseen) hrest
      rw [run_cons]
      by_cases hc : c = .changed name
      · subst hc
        rw [apply_changed hsub, if_pos hseen, if_pos hclosed] at hlater ⊢
        rw [answers_cons_self]
        exact List.forall_mem_cons.mpr ⟨rfl, hlater hsub⟩
      · rw [answers_cons_of_ne hc]
        exact hlater ((subscription?_of_no_handle h hend hc).trans hsub)

/-- One that has not is told of the status once. -/
theorem told_once_of_no_handle {b : Board} {name : String} {sub : Subscription}
    (hclosed : b.cell.handles = 0) (h : b.handles = []) (hsub : b.subscription? name = some sub)
    (hnew : b.cell.version ≠ sub.seen) {calls : List Call} (hkeeps : .unsubscribe name ∉ calls) :
    (∀ a ∈ (answers name (b.run calls).2).head?, a = .status b.cell.value) ∧
      ∀ a ∈ (answers name (b.run calls).2).tail, a = .closed := by
  induction calls generalizing b with
  | nil => exact ⟨nofun, nofun⟩
  | cons c rest ih =>
      obtain ⟨hcell, hhandles⟩ := apply_of_no_handle h c
      have hend : c ≠ .unsubscribe name := fun hsame => hkeeps (hsame ▸ List.mem_cons_self)
      have hrest : .unsubscribe name ∉ rest := fun hmem => hkeeps (List.mem_cons_of_mem _ hmem)
      rw [run_cons]
      by_cases hc : c = .changed name
      · subst hc
        have htold : (b.tell name).subscription? name = some b.cell.subscribe := by
          rw [subscription?_tell, if_pos rfl, hsub, Option.map_some]
        rw [apply_changed hsub, if_neg hnew, answers_cons_self]
        refine ⟨fun a ha => (Option.some.inj ha).symm, ?_⟩
        exact closed_of_no_handle (b := b.tell name) hclosed h htold rfl hrest
      · rw [answers_cons_of_ne hc, ← hcell]
        exact ih (hcell ▸ hclosed) hhandles
          ((subscription?_of_no_handle h hend hc).trans hsub) (hcell ▸ hnew) hrest

/-! ## The law -/

theorem Held.closed_iff {b : Board} (hb : b.Held) : b.cell.handles = 0 ↔ b.handles = [] := by
  rw [hb.count, List.length_eq_zero_iff]

/-- What a subscriber has not been told of is what the record says. -/
theorem Agrees.version_iff {name : String} {l : Ledger} {b : Board} (hb : Agrees name l b)
    {sub : Subscription} (hsub : b.subscription? name = some sub) :
    b.cell.version = sub.seen ↔ ¬ 0 < l.unread := by
  have hunread := hb.unread sub hsub
  omega

theorem Kept.answer {initial : Status} {record : Record} {b : Board} (hb : Kept initial record b)
    (name : String) :
    (b.apply (.changed name)).2 =
      if (ledger name record).taken = false then .missing
      else if 0 < (ledger name record).unread then .status (latest initial record)
      else if b.handles = [] then .closed
      else .pending := by
  have htaken := (hb.told name).taken
  cases hsub : b.subscription? name with
  | none =>
      rw [hsub, Option.isSome_none] at htaken
      rw [apply_changed_of_none hsub, if_pos htaken]
  | some sub =>
      rw [hsub, Option.isSome_some] at htaken
      have hnew := (hb.told name).version_iff hsub
      have hnot : ¬ true = false := nofun
      rw [apply_changed hsub, htaken, if_neg hnot, ← hb.value]
      by_cases hunread : 0 < (ledger name record).unread
      · rw [if_pos hunread, if_neg fun hseen => hnew.mp hseen hunread]
      · rw [if_neg hunread, if_pos (hnew.mpr hunread)]
        simp only [hb.held.closed_iff]

theorem Kept.set {initial : Status} {record : Record} {b : Board} (hb : Kept initial record b)
    {holder : String} (hholder : holder ∈ b.handles) (v : Status) :
    (b.apply (.set holder v)).2 = .flag (v ≠ latest initial record) ∧
      (v = latest initial record → (b.apply (.set holder v)).1 = b) := by
  have hhas : b.has holder = true := by simpa [has] using hholder
  rw [Board.apply, if_pos hhas, set_one, ← hb.value]
  refine ⟨?_, fun hsame => ?_⟩
  · simp only [Cell.flag_set, ne_comm]
  · rw [hsame, Cell.set_value]

theorem Kept.closing {initial : Status} {record : Record} {b : Board} (hb : Kept initial record b)
    {name : String} (h : b.handles = []) (htaken : (ledger name record).taken = true)
    {rest : List Call} (hkeeps : .unsubscribe name ∉ rest) :
    (∀ a ∈ (answers name (b.run rest).2).head?,
      a = if 0 < (ledger name record).unread then .status (latest initial record) else .closed) ∧
      ∀ a ∈ (answers name (b.run rest).2).tail, a = .closed := by
  obtain ⟨sub, hsub⟩ := Option.isSome_iff_exists.mp ((hb.told name).taken.symm.trans htaken)
  have hclosed := hb.held.closed_iff.mpr h
  have hnew := (hb.told name).version_iff hsub
  by_cases hunread : 0 < (ledger name record).unread
  · rw [if_pos hunread, ← hb.value]
    exact told_once_of_no_handle hclosed h hsub (fun hseen => hnew.mp hseen hunread) hkeeps
  · rw [if_neg hunread]
    have hall := closed_of_no_handle hclosed h hsub (hnew.mpr hunread) hkeeps
    exact ⟨fun a ha => hall a (List.mem_of_head? ha), fun a ha => hall a (List.mem_of_mem_tail ha)⟩

theorem Alike.refl (name : String) (b : Board) : Alike name b b :=
  ⟨rfl, rfl, fun _ _ => rfl, rfl⟩

/-- What every subscriber is told, by what was called and answered before.  A question is answered
with the latest status exactly if a call has changed it since the subscription was taken or was last
told; otherwise there is nothing yet, or nothing any more if no handle is left.  Only a set of
another value is a change, and a set of the same value leaves the whole board as it is.  A
subscriber is told at most as often as the status has changed since it subscribed.  Behind the last
handle it is told once of a change that it has not been told of, and never again.  The reads of one
subscriber make no difference to any other call. -/
theorem subscription_law (initial : Status) (handle : String) (calls : List Call) (name : String) :
    let b := ((new initial handle).run calls).1
    let record := ((new initial handle).run calls).2
    let l := ledger name record
    ((b.apply (.changed name)).2 =
      if l.taken = false then .missing
      else if 0 < l.unread then .status (latest initial record)
      else if b.handles = [] then .closed
      else .pending) ∧
    (∀ holder ∈ b.handles, ∀ v,
      (b.apply (.set holder v)).2 = .flag (v ≠ latest initial record) ∧
      (v = latest initial record → (b.apply (.set holder v)).1 = b)) ∧
    l.told + l.unread ≤ l.changes ∧
    (b.handles = [] → l.taken = true → ∀ rest, .unsubscribe name ∉ rest →
      (∀ a ∈ (answers name (b.run rest).2).head?,
        a = if 0 < l.unread then .status (latest initial record) else .closed) ∧
      ∀ a ∈ (answers name (b.run rest).2).tail, a = .closed) ∧
    record.filter (fun x => !x.1.reads name) =
      ((new initial handle).run (calls.filter fun c => !c.reads name)).2 := by
  intro b record l
  have hkept := kept_of_run initial handle calls
  exact ⟨hkept.answer name, fun _ hholder v => hkept.set hholder v, (hkept.told name).told,
    fun h htaken _ hkeeps => hkept.closing h htaken hkeeps,
    ((Alike.refl name _).run calls).symm⟩

/-- Two subscribers, of whom one is told of three changes at once, and the other of one behind the
last handle. -/
theorem subscription_law_of_two :
    let calls : List Call := [.subscribe "main" "a", .set "main" .install,
      .set "main" .uninstall, .subscribe "main" "b", .set "main" .install, .changed "a",
      .set "main" .install, .changed "a", .drop "main"]
    let b := ((new .uninstall "main").run calls).1
    b.handles = [] ∧ (b.apply (.changed "b")).2 = .status .install ∧
      (∀ a ∈ (answers "b" (b.run [.changed "b", .changed "a", .changed "b"]).2).tail,
        a = .closed) ∧
      answers "a" ((new .uninstall "main").run calls).2 = [.status .install, .pending] := by
  intro calls b
  obtain ⟨hanswer, _, _, hclosing, _⟩ := subscription_law .uninstall "main" calls "b"
  exact ⟨by decide, hanswer, (hclosing (by decide) (by decide) _ (by decide)).2, by decide⟩

end Board

end Simulation

end AlarmMonitor
