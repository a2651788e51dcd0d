import AlarmMonitor.Proofs.Install.Reports
import Mathlib.Logic.Relation

/-!
# Members that do not matter

The report in an object depends on the texts that its members give for the state and the status, and
on nothing else.  Other members may come and go and may hold any document; the order of the members,
the escapes in names and strings and the layout do not show.

* `Report.Legible`: members that give each of the two texts at most once, under names that all
  denote something;
* `Report.Field.Gives`: the text that members give for one of the two;
* `Report.Edit`: one change that does not matter, with `Edit.ofMembers?_eq`;
* `Report.read_of_legible`: the report in the texts of such members, and of all that come from them
  by such changes;
* `Report.unpaired_refused`: objects with a name or a state that denotes nothing.
-/

set_option autoImplicit false

namespace AlarmMonitor.Install.Report

open AlarmMonitor.Json (Document Quotation Piece Lexeme IsLayout laid_compact laid_flatMap)

variable {members others : List (Quotation × Document)}

/-! ## Texts that members give -/

/-- Each of the two texts is given at most once, as null or a string that denotes something, and all
names denote something. -/
structure Legible (members : List (Quotation × Document)) : Prop where
  names : ∀ m ∈ members, m.1.meaning.isSome
  once : ∀ f : Field, (f.documents members).length ≤ 1
  texts : ∀ f : Field, ∀ d ∈ f.documents members, IsText d

namespace Field

/-- Do members give this text, under the name of the field? -/
def Gives (f : Field) (members : List (Quotation × Document)) (s : String) : Prop :=
  ∃ q : Quotation, .string q ∈ f.documents members ∧ q.meaning = some s

/-- What the documents under the name of a field give, one by one. -/
def texts (f : Field) (members : List (Quotation × Document)) : List (Option (Option String)) :=
  (f.documents members).map textIn

theorem textOf?_eq_texts (f : Field) (members : List (Quotation × Document)) :
    f.textOf? members =
      match f.texts members with
      | [] => some none
      | [t] => t
      | _ => none := by
  unfold textOf? texts
  generalize f.documents members = docs
  match docs with
  | [] | [_] | _ :: _ :: _ => rfl

/-- The order in which texts are given does not show: two of them are one too many. -/
theorem textOf?_eq_of_perm {f : Field} (h : (f.texts members).Perm (f.texts others)) :
    f.textOf? members = f.textOf? others := by
  rw [textOf?_eq_texts, textOf?_eq_texts]
  generalize f.texts members = ts at h
  generalize f.texts others = us at h
  -- rows of different lengths are no permutations of each other
  match ts, us, h.length_eq with
  | [], [], _ => rfl
  | [t], [u], _ =>
      have htu : t = u := by simpa using h
      rw [htu]
  | _ :: _ :: _, _ :: _ :: _, _ => rfl

/-- A string among at most one document for the text is what is read as the text. -/
theorem gives_iff {f : Field} {t : Option String} (h : f.textOf? members = some t) (s : String) :
    f.Gives members s ↔ t = some s := by
  unfold Gives
  unfold textOf? at h
  generalize f.documents members = docs at h ⊢
  match docs with
  | [] => simp [← Option.some.inj h]
  | [d] =>
      cases d with
      | null => simp [← Option.some.inj h]
      | string q =>
          obtain ⟨u, hu, rfl⟩ := Option.map_eq_some_iff.mp h
          simp [hu]
      | bool | number | array | object => cases h
  | _ :: _ :: _ => cases h

end Field

/-- The text of a report under the name of the field. -/
def text (r : Report) : Field → Option String
  | .state => r.state
  | .status => r.status

theorem ext_text {r t : Report} (h : ∀ f, r.text f = t.text f) : r = t := by
  obtain ⟨state, status⟩ := r
  obtain ⟨state', status'⟩ := t
  obtain rfl : state = state' := h .state
  obtain rfl : status = status' := h .status
  rfl

theorem textOf?_of_ofMembers? {r : Report} (h : ofMembers? members = some r) (f : Field) :
    f.textOf? members = some (r.text f) := by
  unfold ofMembers? at h
  split at h
  · obtain ⟨state, hstate, h⟩ := Option.bind_eq_some_iff.mp h
    obtain ⟨status, hstatus, h⟩ := Option.bind_eq_some_iff.mp h
    obtain rfl : ⟨state, status⟩ = r := Option.some.inj h
    cases f with
    | state => exact hstate
    | status => exact hstatus
  · cases h

/-- Members that are legible give a report, and its texts are the ones that they give. -/
theorem Legible.exists_report (h : Legible members) :
    ∃ r, ofMembers? members = some r ∧ ∀ (f : Field) s, r.text f = some s ↔ f.Gives members s := by
  have hsome : (ofMembers? members).isSome := by
    refine isSome_ofMembers?_iff.mpr ⟨h.names, fun f => ?_⟩
    have honce := h.once f
    have htexts := h.texts f
    generalize f.documents members = docs at honce htexts ⊢
    match docs with
    | [] => exact .inl rfl
    | [d] => exact .inr ⟨d, rfl, htexts d (by simp)⟩
    | _ :: _ :: _ => simp at honce
  obtain ⟨r, hr⟩ := Option.isSome_iff_exists.mp hsome
  exact ⟨r, hr, fun f s => (Field.gives_iff (textOf?_of_ofMembers? hr f) s).symm⟩

/-! ## Changes that do not matter -/

/-- A change of members that the report does not show.  The value of another member changes when the
member goes and comes back. -/
inductive Edit : List (Quotation × Document) → List (Quotation × Document) → Prop
  | reorder {members others : List (Quotation × Document)} (h : members.Perm others) :
      Edit members others
  | add (before after : List (Quotation × Document)) {name : Quotation} (d : Document) {s : String}
      (denotes : name.meaning = some s) (other : Field.ofName s = none) :
      Edit (before ++ after) (before ++ (name, d) :: after)
  | remove (before after : List (Quotation × Document)) {name : Quotation} (d : Document)
      {s : String} (denotes : name.meaning = some s) (other : Field.ofName s = none) :
      Edit (before ++ (name, d) :: after) (before ++ after)
  | respellName (before after : List (Quotation × Document)) {name name' : Quotation} (d : Document)
      (same : name.meaning = name'.meaning) :
      Edit (before ++ (name, d) :: after) (before ++ (name', d) :: after)
  | respellString (before after : List (Quotation × Document)) (name : Quotation) {q q' : Quotation}
      (same : q.meaning = q'.meaning) :
      Edit (before ++ (name, .string q) :: after) (before ++ (name, .string q') :: after)

/-- The texts under the name of a field are those of the members before, of the member and of the
members behind. -/
theorem Field.texts_middle (f : Field) (before after : List (Quotation × Document))
    (name : Quotation) (d : Document) :
    f.texts (before ++ (name, d) :: after) =
      f.texts before ++
        ((if name.meaning = some f.name then [textIn d] else []) ++ f.texts after) := by
  unfold texts documents
  by_cases h : name.meaning = some f.name <;> simp [h]

theorem Field.texts_append (f : Field) (before after : List (Quotation × Document)) :
    f.texts (before ++ after) = f.texts before ++ f.texts after := by
  simp [texts, documents]

/-- A member that is no text gives none. -/
theorem Field.texts_middle_of_other (f : Field) (before after : List (Quotation × Document))
    {name : Quotation} (d : Document) {s : String} (denotes : name.meaning = some s)
    (other : Field.ofName s = none) :
    f.texts (before ++ (name, d) :: after) = f.texts (before ++ after) := by
  have hne : name.meaning ≠ some f.name := by
    intro hname
    obtain rfl : s = f.name := Option.some.inj (denotes.symm.trans hname)
    cases f <;> cases other
  rw [texts_middle, texts_append, if_neg hne, List.nil_append]

/-- Every change keeps the texts, in some order. -/
theorem Edit.texts_perm (h : Edit members others) (f : Field) :
    (f.texts members).Perm (f.texts others) := by
  cases h with
  | reorder hperm => exact (hperm.filterMap _).map _
  | add before after d denotes other =>
      rw [f.texts_middle_of_other before after d denotes other]
  | remove before after d denotes other =>
      rw [f.texts_middle_of_other before after d denotes other]
  | respellName before after d same => rw [f.texts_middle, f.texts_middle, same]
  | respellString before after name same =>
      rw [f.texts_middle, f.texts_middle, textIn, textIn, same]

/-- Every change keeps it so that all names denote something. -/
theorem Edit.names_iff (h : Edit members others) :
    (∀ m ∈ members, m.1.meaning.isSome) ↔ ∀ m ∈ others, m.1.meaning.isSome := by
  cases h with
  | reorder hperm => simp only [hperm.mem_iff]
  | add before after d denotes other | remove before after d denotes other =>
      simp only [List.forall_mem_append, List.forall_mem_cons, denotes, Option.isSome_some,
        true_and]
  | respellName before after d same =>
      simp only [List.forall_mem_append, List.forall_mem_cons, same]
  | respellString before after name same =>
      simp only [List.forall_mem_append, List.forall_mem_cons]

/-- The report does not show a change. -/
theorem Edit.ofMembers?_eq (h : Edit members others) : ofMembers? members = ofMembers? others := by
  have htext : ∀ f : Field, f.textOf? members = f.textOf? others := fun f =>
    Field.textOf?_eq_of_perm (h.texts_perm f)
  simp only [ofMembers?, h.names_iff, htext]

/-- The report does not show any number of changes. -/
theorem ofMembers?_eq_of_edits (h : Relation.ReflTransGen Edit members others) :
    ofMembers? members = ofMembers? others := by
  induction h with
  | refl => rfl
  | tail _ hlast ih => exact ih.trans hlast.ofMembers?_eq

/-! ## Reports in objects -/

/-- The signal is the state unless that is missing or empty, and then the status unless that is. -/
theorem signal_eq_some_iff {r : Report} {s : String} :
    r.signal = some s ↔
      s ≠ "" ∧ (r.state = some s ∨ (∀ t, r.state = some t → t = "") ∧ r.status = some s) := by
  obtain ⟨state, status⟩ := r
  rw [signal, Option.or_eq_some_iff, Option.filter_eq_some_iff, Option.filter_eq_none_iff,
    Option.filter_eq_some_iff]
  simp only [decide_eq_true_eq, ne_eq, Decidable.not_not]
  constructor
  · rintro (⟨hstate, hs⟩ | ⟨hnone, hstatus, hs⟩)
    · exact ⟨hs, .inl hstate⟩
    · exact ⟨hs, .inr ⟨hnone, hstatus⟩⟩
  · rintro ⟨hs, hstate | ⟨hnone, hstatus⟩⟩
    · exact .inl ⟨hstate, hs⟩
    · exact .inr ⟨hnone, hstatus, hs⟩

theorem installStatus_eq_some_iff {r : Report} {st : Status} :
    r.installStatus = some st ↔ r.signal = some st.name := by
  rw [installStatus, Option.bind_eq_some_iff]
  simp only [Status.ofSignal_eq_some_iff]
  constructor
  · rintro ⟨s, hs, rfl⟩
    exact hs
  · exact fun h => ⟨_, h, rfl⟩

/-- Every text of an object whose members are legible is a report.  The signal is the text given for
the state unless none is given or it is empty, and then the one given for the status unless none is
given or it is empty; the status is the one that the signal names, so that a state which names none
hides the text for the status.  Every text of other legible members that give the same two texts has
the same report, and so has every text of members that come from these by adding, removing or
reordering members and by writing names and strings with other escapes. -/
theorem read_of_legible {body : String} (hbody : (Document.object members).WrittenAs body)
    (h : Legible members) :
    ∃ r, read body = some r ∧
      (∀ s, r.state = some s ↔ Field.state.Gives members s) ∧
      (∀ s, r.status = some s ↔ Field.status.Gives members s) ∧
      (∀ s, r.signal = some s ↔ s ≠ "" ∧
        (Field.state.Gives members s ∨
          (∀ t, Field.state.Gives members t → t = "") ∧ Field.status.Gives members s)) ∧
      (∀ st, r.installStatus = some st ↔ r.signal = some st.name) ∧
      (∀ others (text : String), Legible others → (Document.object others).WrittenAs text →
        (∀ (f : Field) s, f.Gives others s ↔ f.Gives members s) → read text = some r) ∧
      ∀ others (text : String), Relation.ReflTransGen Edit members others →
        (Document.object others).WrittenAs text → read text = some r := by
  obtain ⟨r, hr, hgives⟩ := h.exists_report
  have hstate : ∀ s, r.state = some s ↔ Field.state.Gives members s := hgives .state
  have hstatus : ∀ s, r.status = some s ↔ Field.status.Gives members s := hgives .status
  refine ⟨r, (read_writtenAs hbody).trans hr, hstate, hstatus, fun s => ?_,
    fun st => installStatus_eq_some_iff, ?_, ?_⟩
  · rw [signal_eq_some_iff]
    simp only [hstate, hstatus]
  · intro others text hothers htext hsame
    obtain ⟨t, ht, htgives⟩ := hothers.exists_report
    obtain rfl : t = r := ext_text fun f => Option.ext fun s =>
      (htgives f s).trans ((hsame f s).trans (hgives f s).symm)
    exact (read_writtenAs htext).trans ht
  · intro others text hedits htext
    exact (read_writtenAs htext).trans ((ofMembers?_eq_of_edits hedits).symm.trans hr)

/-! ## An object with other members -/

/-- A code unit in these four digits. -/
def codeUnit (a b c d : Char)
    (h : [a, b, c, d].all (fun x => (Json.Lexer.hexValue x).isSome) = true) : Piece :=
  have hall := List.all_eq_true.mp h
  .unit ⟨a, hall a (by simp)⟩ ⟨b, hall b (by simp)⟩ ⟨c, hall c (by simp)⟩ ⟨d, hall d (by simp)⟩

/-- The name `state`. -/
def stateName : Quotation := "state".toList.pmap .plain (by simp)

/-- The same name, its first letter written as a code unit. -/
def escapedStateName : Quotation := codeUnit '0' '0' '7' '3' rfl :: stateName.tail

/-- The text `install`. -/
def installText : Quotation := "install".toList.pmap .plain (by simp)

/-- A leading surrogate without its partner. -/
def unpaired : Quotation := [codeUnit 'd' '8' '0' '0' rfl]

/-- The only member is the state. -/
def bareMembers : List (Quotation × Document) := [(stateName, .string installText)]

/-- Another member, which holds a state of its own and a string that denotes nothing. -/
def nestedMember : Quotation × Document :=
  (installText, .array [.object [(stateName, .null)], .string unpaired])

/-- Another member in front of the state. -/
def crowdedMembers : List (Quotation × Document) :=
  [nestedMember, (escapedStateName, .string installText)]

/-- The state, and another member whose name denotes nothing. -/
def strayMembers : List (Quotation × Document) := bareMembers ++ [(unpaired, .null)]

/-- The only member is a state that denotes nothing. -/
def blankMembers : List (Quotation × Document) := [(stateName, .string unpaired)]

def bareBody : String := "\x7b\"state\":\"install\"\x7d"

def crowdedBody : String :=
  "\x7b \"install\":[\x7b \"state\": null\x7d, \"\\ud800\"], \"\\u0073tate\": \"install\"\x7d"

def strayBody : String := "\x7b\"state\":\"install\",\"\\ud800\":null\x7d"

def blankBody : String := "\x7b\"state\":\"\\ud800\"\x7d"

/-- A member in front of the state, an escape in its name and layout do not change the report. -/
theorem read_of_legible_crowded :
    ((Document.object bareMembers).WrittenAs bareBody ∧ Legible bareMembers ∧
      Relation.ReflTransGen Edit bareMembers crowdedMembers ∧
      (Document.object crowdedMembers).WrittenAs crowdedBody) ∧
    ∃ r, read bareBody = some r ∧ read crowdedBody = some r ∧ r.installStatus = some .install := by
  have hbare : (Document.object bareMembers).WrittenAs bareBody :=
    laid_compact (Document.object bareMembers).lexemes
  have hlegible : Legible bareMembers := by
    refine ⟨by decide, fun f => by cases f <;> decide, fun f d hd => ?_⟩
    cases f with
    | state =>
        obtain rfl := List.mem_singleton.mp hd
        exact .inr ⟨installText, "install", rfl, rfl⟩
    | status => exact absurd hd (List.not_mem_nil)
  have hedits : Relation.ReflTransGen Edit bareMembers crowdedMembers :=
    (Relation.ReflTransGen.single (.respellName [] [] (.string installText) rfl)).tail
      (.add [] _ _ rfl rfl)
  have hcrowded : (Document.object crowdedMembers).WrittenAs crowdedBody := by
    have hspace : ∀ l : Lexeme, IsLayout (if l.isMark then [] else [' ']) := by
      intro l
      cases l.isMark <;> simp [IsLayout, Json.Lexer.isLayout]
    exact laid_flatMap hspace (Document.object crowdedMembers).lexemes
  obtain ⟨r, hr, -, -, hsignal, hstatus, -, hothers⟩ := read_of_legible hbare hlegible
  have hstate : Field.state.Gives bareMembers "install" :=
    ⟨installText, List.mem_singleton.mpr rfl, rfl⟩
  exact ⟨⟨hbare, hlegible, hedits, hcrowded⟩, r, hr, hothers _ _ hedits hcrowded,
    (hstatus .install).mpr ((hsignal "install").mpr ⟨by decide, .inl hstate⟩)⟩

/-- An object with a state is refused if the name of another member denotes nothing, and so is one
whose state denotes nothing. -/
theorem unpaired_refused :
    (read bareBody = some ⟨some "install", none⟩ ∧
      (Document.object strayMembers).WrittenAs strayBody ∧
      Field.state.documents strayMembers = [.string installText] ∧
      Field.status.documents strayMembers = [] ∧ read strayBody = none) ∧
    (Document.object blankMembers).WrittenAs blankBody ∧
      Field.state.documents blankMembers = [.string unpaired] ∧
      Field.status.documents blankMembers = [] ∧ read blankBody = none :=
  ⟨⟨rfl, laid_compact (Document.object strayMembers).lexemes, rfl, rfl, rfl⟩,
    laid_compact (Document.object blankMembers).lexemes, rfl, rfl, rfl⟩

end AlarmMonitor.Install.Report
