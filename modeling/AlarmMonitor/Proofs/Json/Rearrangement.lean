import AlarmMonitor.Proofs.Json.Reading

/-!
# The order of members

Documents that differ in the order of members, at any depth, denote the same value, unless an object
repeats a name.  Of two members of the same name the later one would count.

* `Document.Rearranged`: documents that differ in the order of members only;
* `Document.NamesDiffer`: documents in which no object repeats a name;
* `Rearranged.value?_eq`: they denote the same value, or both denote none;
* `parse_rearranged`: their texts are read alike, whatever layout stands in them.
-/

set_option autoImplicit false

namespace AlarmMonitor.Json

namespace Document

/-- The second document is the first one with members of objects, at any depth, in another order. -/
inductive Rearranged : Document → Document → Prop
  | refl (d : Document) : Rearranged d d
  | trans {d e f : Document} (first : Rearranged d e) (second : Rearranged e f) : Rearranged d f
  | members {ms ns : List (Quotation × Document)} (h : ms.Perm ns) :
      Rearranged (.object ms) (.object ns)
  | item {d e : Document} (before after : List Document) (h : Rearranged d e) :
      Rearranged (.array (before ++ d :: after)) (.array (before ++ e :: after))
  | member {d e : Document} (before after : List (Quotation × Document)) (name : Quotation)
      (h : Rearranged d e) :
      Rearranged (.object (before ++ (name, d) :: after)) (.object (before ++ (name, e) :: after))

/-- The names of members, as far as they denote a text. -/
def names (members : List (Quotation × Document)) : List String :=
  members.filterMap fun m => m.1.meaning

/-- No object in the document repeats a name. -/
inductive NamesDiffer : Document → Prop
  | null : NamesDiffer .null
  | bool (b : Bool) : NamesDiffer (.bool b)
  | number (n : Number.Numeral) : NamesDiffer (.number n)
  | string (q : Quotation) : NamesDiffer (.string q)
  | array {items : List Document} (parts : ∀ d ∈ items, NamesDiffer d) : NamesDiffer (.array items)
  | object {members : List (Quotation × Document)} (distinct : (names members).Nodup)
      (parts : ∀ m ∈ members, NamesDiffer m.2) : NamesDiffer (.object members)

/-- A permuted row denotes the same, permuted, or both denote nothing. -/
theorem mapM_perm {α β : Type} (f : α → Option β) {xs ys : List α} (h : xs.Perm ys) :
    Option.Rel List.Perm (xs.mapM f) (ys.mapM f) := by
  induction h with
  | nil => exact .some (.refl _)
  | @cons x xs ys _ ih =>
      simp only [List.mapM_cons]
      generalize xs.mapM f = before at ih ⊢
      generalize ys.mapM f = behind at ih ⊢
      cases f x with
      | none => exact .none
      | some b =>
          cases ih with
          | none => exact .none
          | some h => exact .some (h.cons b)
  | swap x y xs =>
      simp only [List.mapM_cons]
      cases f x with
      | none => cases f y <;> exact .none
      | some b =>
          cases f y with
          | none => exact .none
          | some c =>
              cases xs.mapM f with
              | none => exact .none
              | some bs => exact .some (.swap _ _ _)
  | @trans xs ys zs _ _ ih₁ ih₂ =>
      generalize xs.mapM f = before at ih₁ ⊢
      generalize ys.mapM f = middle at ih₁ ih₂
      generalize zs.mapM f = behind at ih₂ ⊢
      cases ih₁ with
      | none => exact ih₂
      | some h₁ =>
          cases ih₂ with
          | some h₂ => exact .some (h₁.trans h₂)

theorem names_of_memberValues? {room : Nat} {members : List (Quotation × Document)}
    {ms : List (String × Value)} (h : memberValues? room members = some ms) :
    ms.map Prod.fst = names members := by
  induction members generalizing ms with
  | nil =>
      obtain rfl : [] = ms := by simpa [memberValues?] using h
      rfl
  | cons m rest ih =>
      obtain ⟨name, d⟩ := m
      simp only [memberValues?, Option.bind_eq_bind, Option.bind_eq_some_iff] at h
      obtain ⟨s, hs, v, _, vs, hvs, hms⟩ := h
      obtain rfl : (s, v) :: vs = ms := by simpa using hms
      simp [names, hs, ih hvs]

theorem value?_members {room : Nat} {ms ns : List (Quotation × Document)} (h : ms.Perm ns)
    (hnames : (names ms).Nodup) : value? room (.object ms) = value? room (.object ns) := by
  cases room with
  | zero => rfl
  | succ room =>
      have hvalues := mapM_perm (memberValue? room) h
      rw [← memberValues?_eq_mapM, ← memberValues?_eq_mapM] at hvalues
      simp only [value?]
      generalize hms : memberValues? room ms = values at hvalues
      generalize memberValues? room ns = others at hvalues
      cases hvalues with
      | none => rfl
      | some hperm =>
          rw [← names_of_memberValues? hms] at hnames
          simp [Value.ofMembers_perm hnames hperm]

/-- Documents that differ in the order of members denote the same value, unless a name is
repeated. -/
theorem Rearranged.value?_eq {d e : Document} (h : Rearranged d e) (hnames : NamesDiffer d) :
    NamesDiffer e ∧ ∀ room, d.value? room = e.value? room := by
  induction h with
  | refl d => exact ⟨hnames, fun _ => rfl⟩
  | trans _ _ ih₁ ih₂ =>
      obtain ⟨hmiddle, hfirst⟩ := ih₁ hnames
      obtain ⟨hlast, hsecond⟩ := ih₂ hmiddle
      exact ⟨hlast, fun room => (hfirst room).trans (hsecond room)⟩
  | members hperm =>
      cases hnames with
      | object distinct parts =>
          have hdistinct : (names _).Nodup := (hperm.filterMap _).nodup_iff.mp distinct
          refine ⟨.object hdistinct fun m hm => parts m (hperm.mem_iff.mpr hm), ?_⟩
          exact fun room => value?_members hperm distinct
  | @item d e before after _ ih =>
      cases hnames with
      | array parts =>
          obtain ⟨he, hvalue⟩ := ih (parts d (by simp))
          constructor
          · refine .array fun f hf => ?_
            rcases List.mem_append.mp hf with hf | hf
            · exact parts f (by simp [hf])
            · rcases List.mem_cons.mp hf with rfl | hf
              · exact he
              · exact parts f (by simp [hf])
          · intro room
            cases room with
            | zero => rfl
            | succ room => simp [value?, itemValues?_eq_mapM, hvalue room]
  | @member d e before after name _ ih =>
      cases hnames with
      | object distinct parts =>
          obtain ⟨he, hvalue⟩ := ih (parts (name, d) (by simp))
          constructor
          · have hsame : names (before ++ (name, e) :: after) = names (before ++ (name, d) :: after) := by
              simp [names, List.filterMap_cons]
            refine .object (hsame ▸ distinct) fun m hm => ?_
            rcases List.mem_append.mp hm with hm | hm
            · exact parts m (by simp [hm])
            · rcases List.mem_cons.mp hm with rfl | hm
              · exact he
              · exact parts m (by simp [hm])
          · intro room
            cases room with
            | zero => rfl
            | succ room => simp [value?, memberValues?_eq_mapM, memberValue?, hvalue room]

end Document

/-- Texts of documents that differ in the order of members are read alike, whatever layout stands in
them, unless a name is repeated. -/
theorem parse_rearranged {d e : Document} {first second : String} (hfirst : d.WrittenAs first)
    (hsecond : e.WrittenAs second) (h : d.Rearranged e) (hnames : d.NamesDiffer) :
    parse first = parse second := by
  rw [parse_writtenAs hfirst, parse_writtenAs hsecond, (h.value?_eq hnames).2]

end AlarmMonitor.Json
