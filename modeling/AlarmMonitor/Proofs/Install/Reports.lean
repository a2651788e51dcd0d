import AlarmMonitor.Proofs.Install.Skip

/-!
# Bodies that are reports

A body is a report if it is the text of an object that gives the texts `state` and `status` at most
once each, as strings or null, or of an array that lists at most these two.  What other members of
an object hold does not matter, as long as the body is a document.

* `Report.ofDocument?`: the report in a document;
* `Report.Draft.gather`: the draft behind members, which `Report.ofMembers?_eq` compares with the
  report that they give;
* `Report.read_writtenAs`: what the texts of a document are read as;
* `Report.read_eq_some_iff`, `Report.isSome_read_iff`: which bodies are reports.
-/

set_option autoImplicit false

namespace AlarmMonitor.Install

open AlarmMonitor.Json (Token Document Quotation Lexeme)
open AlarmMonitor.Json.Document (tokens itemTokens memberTokens itemTokens_cons_cons
  memberTokens_singleton memberTokens_cons_cons)
open AlarmMonitor.Json.Reader (Frame State Closes Completes)

namespace Report

/-! ## The report in a document -/

/-- The text that a document gives: a string gives its own, and null gives none. -/
def textIn : Document → Option (Option String)
  | .null => some none
  | .string q => q.meaning.map some
  | _ => none

/-- What members have under the name of a text. -/
def Field.documents (f : Field) (members : List (Quotation × Document)) : List Document :=
  members.filterMap fun m => if m.1.meaning = some f.name then some m.2 else none

/-- The text that members give, none if they do not name it; they must name it at most once. -/
def Field.textOf? (f : Field) (members : List (Quotation × Document)) : Option (Option String) :=
  match f.documents members with
  | [] => some none
  | [d] => textIn d
  | _ => none

/-- The report that members give; all their names must denote something. -/
def ofMembers? (members : List (Quotation × Document)) : Option Report :=
  if ∀ m ∈ members, m.1.meaning.isSome then do
    let state ← Field.state.textOf? members
    let status ← Field.status.textOf? members
    return ⟨state, status⟩
  else none

/-- The report that items give in order. -/
def ofItems? : List Document → Option Report
  | [] => some ⟨none, none⟩
  | [d] => (textIn d).map fun state => ⟨state, none⟩
  | [d, e] => do
    let state ← textIn d
    let status ← textIn e
    return ⟨state, status⟩
  | _ => none

/-- The report in a document, if the document is one. -/
def ofDocument? : Document → Option Report
  | .object members => ofMembers? members
  | .array items => ofItems? items
  | _ => none

/-! ## Documents that are reports -/

/-- Is this null, or a string that denotes a text? -/
def IsText (d : Document) : Prop :=
  d = .null ∨ ∃ (q : Quotation) (s : String), d = .string q ∧ q.meaning = some s

theorem isSome_textIn_iff {d : Document} : (textIn d).isSome ↔ IsText d := by
  cases d with
  | null => exact iff_of_true rfl (.inl rfl)
  | string q =>
      rw [textIn, Option.isSome_map, Option.isSome_iff_exists]
      constructor
      · rintro ⟨s, hs⟩
        exact .inr ⟨q, s, rfl, hs⟩
      · rintro (hnull | ⟨_, s, hq, hs⟩)
        · cases hnull
        · obtain rfl := Document.string.inj hq
          exact ⟨s, hs⟩
  | bool | number | array | object =>
      refine iff_of_false nofun ?_
      rintro (hnull | ⟨_, _, hstring, _⟩)
      · cases hnull
      · cases hstring

theorem Field.isSome_textOf?_iff {f : Field} {members : List (Quotation × Document)} :
    (f.textOf? members).isSome ↔
      f.documents members = [] ∨ ∃ d, f.documents members = [d] ∧ IsText d := by
  unfold textOf?
  generalize f.documents members = docs
  match docs with
  | [] => exact iff_of_true rfl (.inl rfl)
  | [d] =>
      rw [isSome_textIn_iff]
      constructor
      · exact fun h => .inr ⟨d, rfl, h⟩
      · rintro (hnil | ⟨e, he, h⟩)
        · cases hnil
        · cases he
          exact h
  | _ :: _ :: _ => simp

/-- Members give a report exactly if all their names denote something and each text is named at most
once, with null or a string. -/
theorem isSome_ofMembers?_iff {members : List (Quotation × Document)} :
    (ofMembers? members).isSome ↔
      (∀ m ∈ members, m.1.meaning.isSome) ∧
        ∀ f : Field, f.documents members = [] ∨ ∃ d, f.documents members = [d] ∧ IsText d := by
  simp only [← Field.isSome_textOf?_iff]
  unfold ofMembers?
  constructor
  · intro h
    split at h
    · next hnames =>
        refine ⟨hnames, fun f => ?_⟩
        obtain ⟨r, hr⟩ := Option.isSome_iff_exists.mp h
        obtain ⟨state, hstate, hr⟩ := Option.bind_eq_some_iff.mp hr
        obtain ⟨status, hstatus, _⟩ := Option.bind_eq_some_iff.mp hr
        cases f with
        | state => rw [hstate]; rfl
        | status => rw [hstatus]; rfl
    · cases h
  · rintro ⟨hnames, htexts⟩
    obtain ⟨state, hstate⟩ := Option.isSome_iff_exists.mp (htexts .state)
    obtain ⟨status, hstatus⟩ := Option.isSome_iff_exists.mp (htexts .status)
    rw [if_pos hnames, hstate, hstatus]
    rfl

/-- Items give a report exactly if they are at most two, each of them null or a string. -/
theorem isSome_ofItems?_iff {items : List Document} :
    (ofItems? items).isSome ↔ items.length ≤ 2 ∧ ∀ d ∈ items, IsText d := by
  simp only [← isSome_textIn_iff]
  match items with
  | [] => exact iff_of_true rfl ⟨by decide, nofun⟩
  | [d] => simp [ofItems?]
  | [d, e] =>
      rw [ofItems?]
      cases hd : textIn d <;> cases he : textIn e <;> simp [hd, he]
  | d :: e :: f :: rest => simp [ofItems?]

/-! ## Members -/

theorem Field.ofName_eq_some_iff {s : String} {f : Field} :
    Field.ofName s = some f ↔ s = f.name := by
  unfold Field.ofName
  constructor
  · intro h
    split at h
    · next hs => rw [hs, ← Option.some.inj h]; rfl
    · split at h
      · next hs => rw [hs, ← Option.some.inj h]; rfl
      · cases h
  · rintro rfl
    cases f <;> rfl

namespace Draft

/-- The text given so far. -/
def get (draft : Draft) : Field → Option (Option String)
  | .state => draft.state
  | .status => draft.status

theorem ext_get {d e : Draft} (h : ∀ f, d.get f = e.get f) : d = e := by
  obtain ⟨state, status⟩ := d
  obtain ⟨state', status'⟩ := e
  obtain rfl : state = state' := h .state
  obtain rfl : status = status' := h .status
  rfl

theorem given_eq (d : Draft) (f : Field) : d.given f = (d.get f).isSome := by
  cases f <;> rfl

@[simp]
theorem get_set_self (d : Draft) (f : Field) (s : Option String) : (d.set f s).get f = some s := by
  cases f <;> rfl

theorem get_set_of_ne (d : Draft) {f g : Field} (h : g ≠ f) (s : Option String) :
    (d.set f s).get g = d.get g := by
  cases f <;> cases g <;> first | rfl | exact absurd rfl h

/-- The draft behind members: a text must not be given twice, and other members are passed over. -/
def gather (draft : Draft) : List (Quotation × Document) → Option Draft
  | [] => some draft
  | (name, d) :: rest => do
    match Field.ofName (← name.meaning) with
    | some f => if draft.given f then none else (draft.set f (← textIn d)).gather rest
    | none => draft.gather rest

/-- A text that was absent may be given once; one that was given stays. -/
inductive Fills : Option (Option String) → List Document → Option (Option String) → Prop
  | keep (old : Option (Option String)) : Fills old [] old
  | give {d : Document} {s : Option String} (h : textIn d = some s) : Fills none [d] (some s)

theorem fills_cons_iff {old new : Option (Option String)} {d : Document} {rest : List Document} :
    Fills old (d :: rest) new ↔ old = none ∧ ∃ s, textIn d = some s ∧ Fills (some s) rest new := by
  constructor
  · rintro ⟨⟩
    exact ⟨rfl, _, ‹_›, .keep _⟩
  · rintro ⟨rfl, s, htext, ⟨⟩⟩
    exact .give htext

end Draft

theorem Field.name_injective {f g : Field} (h : f.name = g.name) : f = g := by
  cases f <;> cases g <;> first | rfl | exact absurd h (by decide)

theorem Field.documents_cons_self (f : Field) {name : Quotation} (h : name.meaning = some f.name)
    (d : Document) (rest : List (Quotation × Document)) :
    f.documents ((name, d) :: rest) = d :: f.documents rest := by
  simp [documents, h]

theorem Field.documents_cons_of_ne (f : Field) {name : Quotation} (h : name.meaning ≠ some f.name)
    (d : Document) (rest : List (Quotation × Document)) :
    f.documents ((name, d) :: rest) = f.documents rest := by
  simp [documents, h]

namespace Draft

variable {draft new : Draft} {name : Quotation} {d : Document}
  {rest : List (Quotation × Document)}

theorem gather_of_field {f : Field} (h : name.meaning = some f.name) :
    draft.gather ((name, d) :: rest) =
      if draft.given f then none else (textIn d).bind fun s => (draft.set f s).gather rest := by
  simp [gather, h, Field.ofName_eq_some_iff.mpr (rfl : f.name = f.name)]

theorem gather_of_other {s : String} (h : name.meaning = some s) (hs : Field.ofName s = none) :
    draft.gather ((name, d) :: rest) = draft.gather rest := by
  simp [gather, h, hs]

/-- Members are gathered exactly if all their names denote something and each text is filled by
what they have for it. -/
theorem gather_eq_some_iff {members : List (Quotation × Document)} :
    draft.gather members = some new ↔
      (∀ m ∈ members, m.1.meaning.isSome) ∧
        ∀ f : Field, Fills (draft.get f) (f.documents members) (new.get f) := by
  induction members generalizing draft with
  | nil =>
      constructor
      · intro h
        obtain rfl : draft = new := Option.some.inj h
        exact ⟨nofun, fun f => .keep _⟩
      · rintro ⟨-, hfills⟩
        have hget : ∀ f, draft.get f = new.get f := by
          intro f
          have hf : Fills (draft.get f) [] (new.get f) := hfills f
          generalize draft.get f = old at hf
          generalize new.get f = behind at hf
          cases hf
          rfl
        rw [gather, ext_get hget]
  | cons m rest ih =>
      obtain ⟨name, d⟩ := m
      rw [List.forall_mem_cons]
      cases hname : name.meaning with
      | none => simp [gather, hname]
      | some s =>
          cases hs : Field.ofName s with
          | none =>
              have hother : ∀ f : Field, name.meaning ≠ some f.name := by
                intro f hf
                obtain rfl := Option.some.inj (hname.symm.trans hf)
                exact absurd (hs.symm.trans (Field.ofName_eq_some_iff.mpr rfl)) nofun
              rw [gather_of_other hname hs, ih]
              simp only [Field.documents_cons_of_ne _ (hother _)]
              simp
          | some f =>
              obtain rfl := Field.ofName_eq_some_iff.mp hs
              have hother : ∀ g : Field, g ≠ f → name.meaning ≠ some g.name := by
                intro g hg hmeaning
                exact hg (Field.name_injective (Option.some.inj (hname.symm.trans hmeaning))).symm
              rw [gather_of_field hname, given_eq]
              constructor
              · intro h
                split at h
                · cases h
                next hgiven =>
                  obtain ⟨t, htext, hrest⟩ := Option.bind_eq_some_iff.mp h
                  obtain ⟨hnames, hfills⟩ := ih.mp hrest
                  refine ⟨⟨rfl, hnames⟩, fun g => ?_⟩
                  by_cases hg : g = f
                  · subst hg
                    rw [Field.documents_cons_self _ hname, fills_cons_iff]
                    refine ⟨by simpa using hgiven, t, htext, ?_⟩
                    simpa using hfills g
                  · rw [Field.documents_cons_of_ne _ (hother g hg), ← get_set_of_ne draft hg t]
                    exact hfills g
              · rintro ⟨⟨-, hnames⟩, hfills⟩
                have hself := hfills f
                rw [Field.documents_cons_self _ hname, fills_cons_iff] at hself
                obtain ⟨hnone, t, htext, hfill⟩ := hself
                rw [hnone, htext]
                refine ih.mpr ⟨hnames, fun g => ?_⟩
                by_cases hg : g = f
                · subst hg
                  simpa using hfill
                · have hgfills := hfills g
                  rwa [Field.documents_cons_of_ne _ (hother g hg), ← get_set_of_ne draft hg t]
                    at hgfills

end Draft

/-- The text of a field is what fills it from nothing. -/
theorem Field.textOf?_eq_some_iff {f : Field} {members : List (Quotation × Document)}
    {s : Option String} :
    f.textOf? members = some s ↔
      ∃ new, Draft.Fills none (f.documents members) new ∧ new.join = s := by
  unfold textOf?
  constructor
  · intro h
    generalize f.documents members = docs at h
    split at h
    · exact ⟨none, .keep _, Option.some.inj h⟩
    · exact ⟨some s, .give h, rfl⟩
    · cases h
  · rintro ⟨new, hfills, rfl⟩
    generalize f.documents members = docs at hfills
    cases hfills with
    | keep => rfl
    | give h => exact h

/-- The report of the members that are gathered is the one that they give. -/
theorem ofMembers?_eq (members : List (Quotation × Document)) :
    ofMembers? members = (Draft.empty.gather members).map Draft.report := by
  refine Option.ext fun r => ?_
  rw [Option.map_eq_some_iff]
  simp only [Draft.gather_eq_some_iff, ofMembers?]
  constructor
  · intro h
    split at h
    · next hnames =>
        obtain ⟨state, hstate, h⟩ := Option.bind_eq_some_iff.mp h
        obtain ⟨status, hstatus, h⟩ := Option.bind_eq_some_iff.mp h
        obtain ⟨newState, hfillState, rfl⟩ := Field.textOf?_eq_some_iff.mp hstate
        obtain ⟨newStatus, hfillStatus, rfl⟩ := Field.textOf?_eq_some_iff.mp hstatus
        refine ⟨⟨newState, newStatus⟩, ⟨hnames, fun f => ?_⟩, Option.some.inj h⟩
        cases f with
        | state => exact hfillState
        | status => exact hfillStatus
    · cases h
  · rintro ⟨new, ⟨hnames, hfills⟩, rfl⟩
    have hstate : Field.state.textOf? members = some (new.get .state).join :=
      Field.textOf?_eq_some_iff.mpr ⟨_, hfills .state, rfl⟩
    have hstatus : Field.status.textOf? members = some (new.get .status).join :=
      Field.textOf?_eq_some_iff.mpr ⟨_, hfills .status, rfl⟩
    rw [if_pos hnames, hstate, hstatus]
    rfl

/-! ## Reading a document -/

namespace Reading

variable {rest : List Token} {draft : Draft}

/-- A document where a text is expected is read as the text that it gives. -/
theorem foldlM_text (f : Field) (d : Document) :
    (d.tokens ++ rest).foldlM step (.text f draft) =
      (textIn d).bind fun s => rest.foldlM step (.member (draft.set f s)) := by
  cases d with
  | string q =>
      have hstep : step (.text f draft) (.string q.meaning) =
          (textIn (.string q)).map fun s => .member (draft.set f s) := by
        rw [step, textIn]
        cases q.meaning <;> rfl
      have htokens : (Document.string q).tokens ++ rest = .string q.meaning :: rest := rfl
      rw [htokens, List.foldlM_cons, hstep]
      cases textIn (.string q) <;> rfl
  | null | bool | number | array | object => rfl

/-- A document at a place of the array form is read as the text that it gives. -/
theorem foldlM_place (first : Bool) (f : Field) (d : Document) :
    (d.tokens ++ rest).foldlM step (.place first f draft) =
      (textIn d).bind fun s => rest.foldlM step (.placed (following f) (draft.set f s)) := by
  have hplace : ∀ t : Token, t ≠ .closeArray → step (.place first f draft) t =
      (textOf t).map fun s => .placed (following f) (draft.set f s) := by
    intro t ht
    cases first <;> cases t <;> first | rfl | exact absurd rfl ht
  cases d with
  | string q =>
      have htext : textOf (.string q.meaning) = textIn (.string q) := by
        rw [textIn]
        cases q.meaning <;> rfl
      have htokens : (Document.string q).tokens ++ rest = .string q.meaning :: rest := rfl
      have hstring : Token.string q.meaning ≠ .closeArray := nofun
      rw [htokens, List.foldlM_cons, hplace _ hstring, htext]
      cases textIn (.string q) <;> rfl
  | null | bool | number | array | object => cases first <;> rfl

/-- The machine goes on behind what it passes over. -/
theorem foldlM_skipping {ts : List Token} {skip : Skip} (hskip : skip ≠ .done)
    (h : ts.foldlM Skip.step skip = some .done) :
    (ts ++ rest).foldlM step (.skipping skip draft) = rest.foldlM step (.member draft) := by
  induction ts generalizing skip with
  | nil => exact absurd (Option.some.inj h) hskip
  | cons t ts ih =>
      rw [List.foldlM_cons] at h
      obtain ⟨next, hnext, hrest⟩ := Option.bind_eq_some_iff.mp h
      have hstep : step (.skipping skip draft) t = some (skipped draft next) := by
        rw [step, hnext]
        rfl
      rw [List.cons_append, List.foldlM_cons, hstep]
      by_cases hdone : next = .done
      · subst hdone
        -- nothing is read behind the end of the value
        cases ts with
        | nil => rfl
        | cons t ts => cases hrest
      · have hskipped : skipped draft next = .skipping next draft := by
          cases next with
          | done => exact absurd rfl hdone
          | _ => rfl
        rw [hskipped]
        exact ih hdone hrest

/-- The value of another member is passed over. -/
theorem foldlM_other (d : Document) :
    (d.tokens ++ rest).foldlM step (.skipping (.value false []) draft) =
      rest.foldlM step (.member draft) := by
  have hpasses := Skip.foldlM_document d false [] []
  rw [List.append_nil] at hpasses
  exact foldlM_skipping nofun hpasses

theorem step_name (first : Bool) (name : Option String) :
    step (.name first draft) (.string name) = name.bind fun s =>
      match Field.ofName s with
      | some f => if draft.given f then none else some (.colon (some f) draft)
      | none => some (.colon none draft) := by
  cases first <;> cases name <;> rfl

/-- A member behind others is read into the draft as it is gathered. -/
theorem foldlM_member (first : Bool) (name : Quotation) (d : Document) :
    (.string name.meaning :: .colon :: (d.tokens ++ rest)).foldlM step (.name first draft) =
      (draft.gather [(name, d)]).bind fun new => rest.foldlM step (.member new) := by
  rw [List.foldlM_cons, step_name]
  cases hname : name.meaning with
  | none =>
      have hgather : draft.gather [(name, d)] = none := by simp [Draft.gather, hname]
      rw [hgather]
      rfl
  | some s =>
      rw [Option.bind_some]
      cases hs : Field.ofName s with
      | none =>
          rw [Draft.gather_of_other hname hs]
          exact foldlM_other d
      | some f =>
          obtain rfl := Field.ofName_eq_some_iff.mp hs
          rw [Draft.gather_of_field hname]
          dsimp only
          split
          · rfl
          · refine (foldlM_text f d).trans ?_
            cases textIn d <;> rfl

theorem gather_cons (m : Quotation × Document) (members : List (Quotation × Document)) :
    draft.gather (m :: members) = (draft.gather [m]).bind fun new => new.gather members := by
  obtain ⟨name, d⟩ := m
  cases hname : name.meaning with
  | none => simp [Draft.gather, hname]
  | some s =>
      cases hs : Field.ofName s with
      | none => rw [Draft.gather_of_other hname hs, Draft.gather_of_other hname hs]; rfl
      | some f =>
          obtain rfl := Field.ofName_eq_some_iff.mp hs
          rw [Draft.gather_of_field hname, Draft.gather_of_field hname]
          split
          · rfl
          · cases textIn d <;> rfl

/-- Members are read as they are gathered. -/
theorem foldlM_members {members : List (Quotation × Document)} (hne : members ≠ [])
    (first : Bool) :
    (memberTokens members ++ .closeObject :: rest).foldlM step (.name first draft) =
      (draft.gather members).bind fun new => rest.foldlM step (.done new.report) := by
  induction members generalizing first draft with
  | nil => exact absurd rfl hne
  | cons m members ih =>
      obtain ⟨name, d⟩ := m
      cases members with
      | nil =>
          rw [memberTokens_singleton]
          exact foldlM_member first name d
      | cons m members =>
          rw [memberTokens_cons_cons, List.cons_append, List.cons_append, List.append_assoc,
            foldlM_member, gather_cons (name, d) (m :: members)]
          cases draft.gather [(name, d)] with
          | none => rfl
          | some new => exact ih (List.cons_ne_nil _ _) false

/-- Items are read as the report that they give in order. -/
theorem foldlM_items (items : List Document) :
    ((itemTokens items ++ [Token.closeArray]).foldlM step (.place true .state .empty)).bind finish =
      ofItems? items := by
  match items with
  | [] => rfl
  | [d] =>
      have hitems : itemTokens [d] = d.tokens := rfl
      rw [hitems, foldlM_place, ofItems?]
      cases textIn d <;> rfl
  | [d, e] =>
      have hitems : itemTokens [d, e] ++ [.closeArray] =
          d.tokens ++ (.comma :: (e.tokens ++ [.closeArray])) := by
        rw [itemTokens_cons_cons, List.append_assoc]
        rfl
      rw [hitems, foldlM_place, ofItems?]
      cases textIn d with
      | none => rfl
      | some state =>
          have hnext : step (.placed (following .state) (Draft.empty.set .state state)) .comma =
              some (.place false .status (Draft.empty.set .state state)) := rfl
          rw [Option.bind_some, List.foldlM_cons, hnext]
          refine (congrArg (·.bind finish) (foldlM_place false .status e)).trans ?_
          cases textIn e <;> rfl
  | d :: e :: f :: items =>
      -- behind the second text only the end of the array may follow
      have hitems : itemTokens (d :: e :: f :: items) ++ [.closeArray] =
          d.tokens ++ (.comma :: (e.tokens ++
            (.comma :: (itemTokens (f :: items) ++ [.closeArray])))) := by
        rw [itemTokens_cons_cons, itemTokens_cons_cons, List.append_assoc, List.cons_append,
          List.append_assoc]
        rfl
      rw [hitems, foldlM_place, ofItems?]
      · cases textIn d with
        | none => rfl
        | some state =>
            have hnext : step (.placed (following .state) (Draft.empty.set .state state)) .comma =
                some (.place false .status (Draft.empty.set .state state)) := rfl
            rw [Option.bind_some, List.foldlM_cons, hnext]
            refine (congrArg (·.bind finish) (foldlM_place false .status e)).trans ?_
            cases textIn e <;> rfl
      all_goals nofun

/-- What the tokens of a document are read as. -/
theorem foldlM_document (d : Document) :
    (d.tokens.foldlM step .start).bind finish = ofDocument? d := by
  cases d with
  | null | bool | number | string => rfl
  | array items =>
      rw [Document.tokens_array]
      exact foldlM_items items
  | object members =>
      rw [Document.tokens_object, ofDocument?, ofMembers?_eq]
      cases members with
      | nil => rfl
      | cons m members =>
          have hmembers : (memberTokens (m :: members) ++ [Token.closeObject]).foldlM step
              (.name true .empty) = (Draft.empty.gather (m :: members)).bind fun new =>
                some (.done new.report) := foldlM_members (List.cons_ne_nil m members) true
          refine (congrArg (·.bind finish) hmembers).trans ?_
          cases Draft.empty.gather (m :: members) <;> rfl

end Reading

/-! ## What is read is a document -/

namespace Reading

/-- Where a reader of values stands that is at the same place. -/
def position : Reading → State
  | .start => .value false []
  | .place first _ _ => .value first [.array []]
  | .placed _ _ => .item [] []
  | .name first _ => .name first [] []
  | .colon _ _ => .colon [] "" []
  | .text _ _ => .value false [.object [] ""]
  | .skipping skip _ => skip.position [.object [] ""]
  | .member _ => .member [] []
  | .done _ => .done .null

variable {ls : List Lexeme}

/-- Where a text is read stands a document. -/
theorem completes_of_textOf {l : Lexeme} {s : Option String} {outer : List Frame} (canClose : Bool)
    (htext : textOf l.token = some s) (h : Closes outer ls) :
    Completes (.value canClose outer) (l :: ls) := by
  cases l with
  | null => exact Json.Reader.completes_leaf (d := .null) rfl h
  | string q => exact Json.Reader.completes_leaf (d := .string q) rfl h
  | _ => cases htext

theorem completes_of_skipped {skip : Skip} {draft : Draft}
    (h : Completes (skipped draft skip).position ls) :
    Completes (skip.position [.object [] ""]) ls := by
  cases skip <;> exact h

/-- A lexeme that is read and what follows it are what must follow before it. -/
theorem completes_of_step {s next : Reading} {l : Lexeme} (hstep : s.step l.token = some next)
    (h : Completes next.position ls) : Completes s.position (l :: ls) := by
  cases s with
  | start =>
      cases l with
      | openArray =>
          obtain rfl := Option.some.inj hstep
          exact Json.Reader.completes_openArray h
      | openObject =>
          obtain rfl := Option.some.inj hstep
          exact Json.Reader.completes_openObject h
      | _ => cases hstep
  | place first field draft =>
      by_cases hclose : l.token = .closeArray
      · obtain rfl := Json.Lexeme.eq_closeArray_of_token hclose
        cases first with
        | true =>
            obtain rfl := Option.some.inj hstep
            exact Json.Reader.completes_emptyArray h
        | false => cases hstep
      · have htext : step (.place first field draft) l.token =
            (textOf l.token).map fun s => .placed (following field) (draft.set field s) := by
          cases first <;> cases l <;> first | rfl | exact absurd rfl hclose
        obtain ⟨s, hs, rfl⟩ := Option.map_eq_some_iff.mp (htext.symm.trans hstep)
        exact completes_of_textOf first hs h
  | placed field draft =>
      cases l with
      | comma =>
          cases field with
          | some field =>
              obtain rfl := Option.some.inj hstep
              exact Json.Reader.completes_nextItem h
          | none => cases hstep
      | closeArray =>
          cases field <;> obtain rfl := Option.some.inj hstep <;>
            exact Json.Reader.completes_closeArray h
      | _ => cases field <;> cases hstep
  | name first draft =>
      cases l with
      | string q =>
          have hnext : ∃ field, next = .colon field draft := by
            rw [Lexeme.token, step_name] at hstep
            obtain ⟨s, -, hs⟩ := Option.bind_eq_some_iff.mp hstep
            split at hs
            · split at hs
              · cases hs
              · exact ⟨_, (Option.some.inj hs).symm⟩
            · exact ⟨_, (Option.some.inj hs).symm⟩
          obtain ⟨field, rfl⟩ := hnext
          exact Json.Reader.completes_name q h
      | closeObject =>
          cases first with
          | true =>
              obtain rfl := Option.some.inj hstep
              exact Json.Reader.completes_emptyObject h
          | false => cases hstep
      | _ => cases first <;> cases hstep
  | colon field draft =>
      cases l with
      | colon =>
          cases field <;> obtain rfl := Option.some.inj hstep <;>
            exact Json.Reader.completes_colon h
      | _ => cases field <;> cases hstep
  | text field draft =>
      obtain ⟨s, hs, rfl⟩ := Option.map_eq_some_iff.mp hstep
      exact completes_of_textOf false hs h
  | skipping skip draft =>
      obtain ⟨skip', hskip, rfl⟩ := Option.map_eq_some_iff.mp hstep
      exact Skip.completes_of_step hskip (completes_of_skipped h)
  | member draft =>
      cases l with
      | comma =>
          obtain rfl := Option.some.inj hstep
          exact Json.Reader.completes_nextMember h
      | closeObject =>
          obtain rfl := Option.some.inj hstep
          exact Json.Reader.completes_closeObject h
      | _ => cases hstep
  | done r => cases hstep

/-- What is read up to the end of a report is what must follow where the reading began. -/
theorem completes_of_run {s : Reading} {r : Report}
    (h : ((ls.map Lexeme.token).foldlM step s).bind finish = some r) : Completes s.position ls := by
  obtain ⟨s', hrun, hfinish⟩ := Option.bind_eq_some_iff.mp h
  have hend : Completes s'.position [] := by
    cases s' with
    | done r => rfl
    | _ => cases hfinish
  exact Json.Reader.completes_of_foldlM completes_of_step hrun hend

end Reading

/-- A text of a document is read as the report in it. -/
theorem read_writtenAs {d : Document} {body : String} (h : d.WrittenAs body) :
    read body = ofDocument? d := by
  rw [← Reading.foldlM_document, read, Json.Lexer.run_laid h d.parted_lexemes]
  rfl

/-- The bodies that are reports are the texts of the documents that are. -/
theorem read_eq_some_iff {body : String} {r : Report} :
    read body = some r ↔ ∃ d : Document, d.WrittenAs body ∧ ofDocument? d = some r := by
  constructor
  · intro h
    obtain ⟨ts, htokens, hrun⟩ := Option.bind_eq_some_iff.mp h
    obtain ⟨ls, hlaid, rfl⟩ := Json.Lexer.writes_of_run htokens
    obtain ⟨d, rfl⟩ := Json.Reader.document_of_completes (Reading.completes_of_run hrun)
    have hwritten : d.WrittenAs body := hlaid
    exact ⟨d, hwritten, (read_writtenAs hwritten).symm.trans h⟩
  · rintro ⟨d, hwritten, hreport⟩
    exact (read_writtenAs hwritten).trans hreport

/-- A body is a report exactly if it is the text of an object whose names all denote something and
that names each text at most once, with null or a string, or of an array of at most two items, each
of them null or a string. -/
theorem isSome_read_iff {body : String} :
    (read body).isSome ↔
      (∃ members, (Document.object members).WrittenAs body ∧
        (∀ m ∈ members, m.1.meaning.isSome) ∧
        ∀ f : Field, f.documents members = [] ∨ ∃ d, f.documents members = [d] ∧ IsText d) ∨
      ∃ items, (Document.array items).WrittenAs body ∧ items.length ≤ 2 ∧
        ∀ d ∈ items, IsText d := by
  simp only [← isSome_ofMembers?_iff, ← isSome_ofItems?_iff]
  constructor
  · intro h
    obtain ⟨r, hr⟩ := Option.isSome_iff_exists.mp h
    obtain ⟨d, hwritten, hreport⟩ := read_eq_some_iff.mp hr
    have hsome := Option.isSome_of_mem hreport
    cases d with
    | object members => exact .inl ⟨members, hwritten, hsome⟩
    | array items => exact .inr ⟨items, hwritten, hsome⟩
    | null | bool | number | string => cases hreport
  · rintro (⟨members, hwritten, hsome⟩ | ⟨items, hwritten, hsome⟩)
    · rw [read_writtenAs hwritten]
      exact hsome
    · rw [read_writtenAs hwritten]
      exact hsome

end Report

end AlarmMonitor.Install
