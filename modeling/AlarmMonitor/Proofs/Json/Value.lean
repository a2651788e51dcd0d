import AlarmMonitor.Json.Value

/-!
# Values and their parts

Objects list their members in the order of names, so members that arrive in any order are the same
object.

* `Value.induct`: what holds of a value if it holds of its parts;
* `Value.ofMembers`: the members of an object, put in order one after the other;
* `ofMembers_perm`: the order in which they arrive does not matter unless a name is repeated;
* `Value.IsSorted`, `Value.EveryNumber`, `Value.depth`: what a value is like all the way down.
-/

set_option autoImplicit false

namespace AlarmMonitor.Json.Value

/-- What holds of a value if it holds of its parts holds of every value. -/
@[induction_eliminator]
theorem induct {motive : Value → Prop} (null : motive .null) (bool : ∀ b, motive (.bool b))
    (number : ∀ n, motive (.number n)) (string : ∀ s, motive (.string s))
    (array : ∀ items, (∀ v ∈ items, motive v) → motive (.array items))
    (object : ∀ members, (∀ m ∈ members, motive m.2) → motive (.object members)) (v : Value) :
    motive v := by
  refine @Value.rec motive (fun items => ∀ v ∈ items, motive v)
    (fun members => ∀ m ∈ members, motive m.2) (fun m => motive m.2) null bool number string array
    object ?_ ?_ ?_ ?_ ?_ v
  · simp
  · intro v items hv hitems
    exact List.forall_mem_cons.mpr ⟨hv, hitems⟩
  · simp
  · intro m members hm hmembers
    exact List.forall_mem_cons.mpr ⟨hm, hmembers⟩
  · intro name v hv
    exact hv

/-! ## Members in the order of names -/

/-- Members one after the other, each put into those before it. -/
def ofMembers (members : List (String × Value)) : List (String × Value) :=
  members.foldl (fun acc m => insertMember m.1 m.2 acc) []

/-- Are the members in ascending order of names, without a repeated one? -/
def Ascending (members : List (String × Value)) : Prop := members.Pairwise (·.1 < ·.1)

instance (members : List (String × Value)) : Decidable (Ascending members) :=
  inferInstanceAs (Decidable (members.Pairwise (·.1 < ·.1)))

theorem lt_of_not_lt_of_ne {a b : String} (h : ¬ a < b) (hne : a ≠ b) : b < a := by
  have hle : b ≤ a := String.not_lt.mp h
  by_cases hlt : b < a
  · exact hlt
  · exact absurd (String.le_antisymm (String.not_lt.mp hlt) hle) hne

theorem mem_insertMember {name : String} {v : Value} {members : List (String × Value)}
    {m : String × Value} (h : m ∈ insertMember name v members) : m = (name, v) ∨ m ∈ members := by
  induction members with
  | nil => simpa [insertMember] using h
  | cons head rest ih =>
      obtain ⟨n, w⟩ := head
      simp only [insertMember] at h
      split at h
      · simpa using h
      · split at h
        · rcases List.mem_cons.mp h with rfl | hrest
          · exact .inl rfl
          · exact .inr (List.mem_cons_of_mem _ hrest)
        · rcases List.mem_cons.mp h with rfl | hrest
          · exact .inr List.mem_cons_self
          · exact (ih hrest).imp_right (List.mem_cons_of_mem _)

theorem ascending_insertMember {name : String} {v : Value} {members : List (String × Value)}
    (h : Ascending members) : Ascending (insertMember name v members) := by
  induction members with
  | nil => simp [insertMember, Ascending]
  | cons head rest ih =>
      obtain ⟨n, w⟩ := head
      obtain ⟨hhead, hrest⟩ := List.pairwise_cons.mp h
      simp only [insertMember]
      split
      · next hlt =>
          refine List.pairwise_cons.mpr ⟨?_, h⟩
          intro m hm
          rcases List.mem_cons.mp hm with rfl | hm
          · exact hlt
          · exact String.lt_trans hlt (hhead m hm)
      · next hlt =>
          split
          · next heq => exact List.pairwise_cons.mpr ⟨fun m hm => heq ▸ hhead m hm, hrest⟩
          · next hne =>
              refine List.pairwise_cons.mpr ⟨?_, ih hrest⟩
              intro m hm
              rcases mem_insertMember hm with rfl | hm
              · exact lt_of_not_lt_of_ne hlt hne
              · exact hhead m hm

/-- A member of a new name joins the others. -/
theorem insertMember_perm {name : String} {v : Value} {members : List (String × Value)}
    (h : name ∉ members.map Prod.fst) :
    (insertMember name v members).Perm ((name, v) :: members) := by
  induction members with
  | nil => simp [insertMember]
  | cons head rest ih =>
      obtain ⟨n, w⟩ := head
      obtain ⟨hne, hrest⟩ : name ≠ n ∧ name ∉ rest.map Prod.fst := by simpa using h
      simp only [insertMember, if_neg hne]
      split
      · exact List.Perm.refl _
      · exact ((ih hrest).cons _).trans (List.Perm.swap _ _ _)

theorem ascending_ofMembers (members : List (String × Value)) : Ascending (ofMembers members) := by
  have key : ∀ acc : List (String × Value), Ascending acc →
      Ascending (members.foldl (fun acc m => insertMember m.1 m.2 acc) acc) := by
    induction members with
    | nil => intro acc h; exact h
    | cons m rest ih => intro acc h; exact ih _ (ascending_insertMember h)
  exact key [] List.Pairwise.nil

/-- Members of different names are kept, all of them. -/
theorem ofMembers_perm_self {members : List (String × Value)}
    (h : (members.map Prod.fst).Nodup) : (ofMembers members).Perm members := by
  have key : ∀ acc : List (String × Value), ((acc ++ members).map Prod.fst).Nodup →
      (members.foldl (fun acc m => insertMember m.1 m.2 acc) acc).Perm (acc ++ members) := by
    clear h
    induction members with
    | nil => intro acc _; simp
    | cons m rest ih =>
        intro acc hacc
        have hperm : (acc ++ m :: rest).Perm (m :: acc ++ rest) := List.perm_middle
        have hnodup := (hperm.map Prod.fst).nodup_iff.mp hacc
        have hnew : m.1 ∉ acc.map Prod.fst := by
          intro hmem
          rw [List.cons_append, List.map_cons, List.nodup_cons, List.map_append] at hnodup
          exact hnodup.1 (List.mem_append_left _ hmem)
        have hinsert := insertMember_perm (v := m.2) hnew
        have hstep := hinsert.append_right rest
        exact (ih _ ((hstep.map Prod.fst).nodup_iff.mpr hnodup)).trans (hstep.trans hperm.symm)
  exact key [] (by simpa using h)

theorem eq_of_ascending_of_perm {ms ns : List (String × Value)} (hms : Ascending ms)
    (hns : Ascending ns) (h : ms.Perm ns) : ms = ns :=
  List.Perm.eq_of_pairwise (fun _ _ _ _ hab hba => absurd hba (String.lt_asymm hab)) hms hns h

/-- The order of members does not matter unless a name is repeated. -/
theorem ofMembers_perm {ms ns : List (String × Value)} (hms : (ms.map Prod.fst).Nodup)
    (h : ms.Perm ns) : ofMembers ms = ofMembers ns := by
  have hns : (ns.map Prod.fst).Nodup := (h.map Prod.fst).nodup_iff.mp hms
  refine eq_of_ascending_of_perm (ascending_ofMembers ms) (ascending_ofMembers ns) ?_
  exact (ofMembers_perm_self hms).trans (h.trans (ofMembers_perm_self hns).symm)

theorem Ascending.nodup {members : List (String × Value)} (h : Ascending members) :
    (members.map Prod.fst).Nodup := by
  refine List.pairwise_map.mpr (h.imp ?_)
  intro a b hlt heq
  exact String.lt_irrefl _ (heq ▸ hlt)

/-- Members in order stay as they are. -/
theorem ofMembers_of_ascending {members : List (String × Value)} (h : Ascending members) :
    ofMembers members = members :=
  eq_of_ascending_of_perm (ascending_ofMembers members) h (ofMembers_perm_self h.nodup)

theorem mem_of_lookup {name : String} {v : Value} {members : List (String × Value)}
    (h : lookup name members = some v) : (name, v) ∈ members := by
  induction members with
  | nil => simp [lookup] at h
  | cons m rest ih =>
      simp only [lookup] at h
      split at h
      · next hname =>
          cases h
          simp [← hname]
      · exact List.mem_cons_of_mem _ (ih h)

/-! ## All the way down -/

/-- Every object in the value lists its members in ascending order of names, as an object does that
was read. -/
inductive IsSorted : Value → Prop
  | null : IsSorted .null
  | bool (b : Bool) : IsSorted (.bool b)
  | number (n : Number) : IsSorted (.number n)
  | string (s : String) : IsSorted (.string s)
  | array {items : List Value} (parts : ∀ v ∈ items, IsSorted v) : IsSorted (.array items)
  | object {members : List (String × Value)} (order : Ascending members)
      (parts : ∀ m ∈ members, IsSorted m.2) : IsSorted (.object members)

/-- Every number in the value is of a kind. -/
inductive EveryNumber (p : Number → Prop) : Value → Prop
  | null : EveryNumber p .null
  | bool (b : Bool) : EveryNumber p (.bool b)
  | number {n : Number} (kind : p n) : EveryNumber p (.number n)
  | string (s : String) : EveryNumber p (.string s)
  | array {items : List Value} (parts : ∀ v ∈ items, EveryNumber p v) : EveryNumber p (.array items)
  | object {members : List (String × Value)} (parts : ∀ m ∈ members, EveryNumber p m.2) :
      EveryNumber p (.object members)

mutual

/-- How many arrays and objects stand inside each other. -/
def depth : Value → Nat
  | .array items => itemsDepth items + 1
  | .object members => membersDepth members + 1
  | _ => 0

/-- The depth of the deepest item. -/
def itemsDepth : List Value → Nat
  | [] => 0
  | v :: rest => max v.depth (itemsDepth rest)

/-- The depth of the deepest member. -/
def membersDepth : List (String × Value) → Nat
  | [] => 0
  | (_, v) :: rest => max v.depth (membersDepth rest)

end

theorem itemsDepth_le_iff {items : List Value} {k : Nat} :
    itemsDepth items ≤ k ↔ ∀ v ∈ items, v.depth ≤ k := by
  induction items with
  | nil => simp [itemsDepth]
  | cons v rest ih =>
      simp only [itemsDepth, List.forall_mem_cons, ← ih]
      omega

theorem membersDepth_le_iff {members : List (String × Value)} {k : Nat} :
    membersDepth members ≤ k ↔ ∀ m ∈ members, m.2.depth ≤ k := by
  induction members with
  | nil => simp [membersDepth]
  | cons m rest ih =>
      obtain ⟨name, v⟩ := m
      simp only [membersDepth, List.forall_mem_cons, ← ih]
      omega

end AlarmMonitor.Json.Value
