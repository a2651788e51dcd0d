import AlarmMonitor.Proofs.Settings.Layers
import AlarmMonitor.Proofs.Settings.Spelling

/-!
# Texts from the environment

The text of a variable is taken for a value wherever it spells one, and a setting that is a text
gets the value as it is printed.  So a text arrives as it was given unless it spells a value that is
printed in another way: `007` arrives as `7`, `TRUE` as `true` and `1.50` as `1.5`.

* `Environment.Verbatim`: the texts that are printed as they were given;
* `toText_of_verbatim`, `verbatim_of_toText`: exactly these are converted to themselves;
* `valueOf_merged`: the variable of a key in the merged configuration;
* `text_of_environment`: what settings get from the environment.
-/

set_option autoImplicit false

namespace AlarmMonitor.Settings

namespace Environment

open AlarmMonitor.Number (Binary)

/-! ## What arrives -/

/-- The texts that are printed as they were given. -/
inductive Verbatim : String → Prop
  | word (b : Bool) : Verbatim (wordOf b)
  | integer (n : WrittenInteger) (fits : n.Fits) (plain : n.IsPlain) {s : String}
      (h : n.text = s.toList) : Verbatim s
  | real (r : Binary) {s : String} (h : Spells s (.real r)) (printed : r.text = s.toList) :
      Verbatim s
  | text {s : String} (h : ∀ x, ¬ Spells s x) : Verbatim s

variable {s : String} (origin : Origin)

/-- What a variable holds is never nothing, so it is converted to a text. -/
theorem exists_toText (s : String) : ∃ w, (scalarOf s).toText origin = .ok w := by
  by_cases htext : scalarOf s = .text s
  · exact ⟨s, by rw [htext]; rfl⟩
  · have hspells := spells_of_scalarOf htext
    generalize scalarOf s = x at hspells
    cases hspells <;> exact ⟨_, rfl⟩

theorem toText_of_verbatim (h : Verbatim s) : (scalarOf s).toText origin = .ok s := by
  cases h with
  | word b =>
      rw [scalarOf_of_spells (.word b (by cases b <;> rfl))]
      rfl
  | integer n fits plain h =>
      rw [scalarOf_of_integer n h fits, Scalar.toText, ← String.toList_inj.mp
        ((n.text_eq_iff.mpr plain).symm.trans h)]
  | real r h printed =>
      rw [scalarOf_of_spells h, Scalar.toText, printed, String.ofList_toList]
  | text h =>
      have htext : scalarOf s = .text s := by
        by_contra hne
        exact h _ (spells_of_scalarOf hne)
      rw [htext]
      rfl

theorem verbatim_of_toText (h : (scalarOf s).toText origin = .ok s) : Verbatim s := by
  by_cases htext : scalarOf s = .text s
  · refine .text fun x hx => ?_
    rw [scalarOf_of_spells hx] at htext
    subst htext
    cases hx
  · have hspells := spells_of_scalarOf htext
    cases hvalue : scalarOf s with
    | nothing =>
        rw [hvalue] at hspells
        cases hspells
    | bool b =>
        rw [hvalue] at h
        rw [← Except.ok.inj h]
        exact .word b
    | integer i =>
        rw [hvalue] at h hspells
        cases hspells with
        | integer n hn fits =>
            exact .integer n fits (n.text_eq_iff.mp (by rw [hn, Except.ok.inj h])) hn
    | real r =>
        rw [hvalue] at h hspells
        refine .real r hspells ?_
        rw [← Except.ok.inj h, String.toList_ofList]
    | text t =>
        rw [hvalue] at hspells
        cases hspells

/-- A text with another character, such as a slash or a colon, is verbatim. -/
theorem verbatim_of_mem {c : Char} (hc : c ∈ s.toList) (h : isValueChar c = false) : Verbatim s :=
  .text fun _ hx => absurd ((isValueChar_of_spells hx c hc).symm.trans h) nofun

end Environment

/-! ## The variable of a key -/

/-- Is the setting of the key a text? -/
def Key.isText : Key → Bool
  | .baseUrl | .alarmEndpoint | .installEndpoint | .detailHint => true
  | .interval | .syncInterval | .timeout => false

theorem Key.read_of_isText {key : Key} (h : key.isText = true) (t : Tree) :
    key.read t = t.toText.map .text := by
  cases key with
  | baseUrl | alarmEndpoint | installEndpoint | detailHint => rfl
  | interval | syncInterval | timeout => cases h

/-- Does the variable set the key, or a place below it? -/
def Environment.reaches (key : Key) (v : Environment.Variable) : Bool :=
  ((Environment.keyOf v.1).bind Path.read).any fun p => p.root == key.name

/-- A variable of its key sets the key to what its text is taken for. -/
theorem valueOf_values_cons {key : Key} {v : Environment.Variable}
    (hof : Environment.isOf key v = true) (rest : List Environment.Variable) (t : Tree) :
    ∃ u : Tree, valueOf u key = Environment.treeOf v ∧
      t.setAll (Environment.values (v :: rest)) = u.setAll (Environment.values rest) := by
  have hkey : Environment.keyOf v.1 = some key.name :=
    Environment.keyOf_eq_some_iff.mpr (of_decide_eq_true hof)
  refine ⟨t.set key.name (Environment.treeOf v), ?_, ?_⟩
  · rw [valueOf_set key.path_name, if_pos rfl]
    simp [Tree.updateAt, Environment.treeOf, Tree.merge]
  · rw [Environment.values_cons, hkey]
    rfl

/-- Variables that do not reach a key leave it as it is. -/
theorem valueOf_values {key : Key} {vars : List Environment.Variable}
    (h : ∀ w ∈ vars, Environment.reaches key w = false) (t : Tree) :
    valueOf (t.setAll (Environment.values vars)) key = valueOf t key := by
  induction vars generalizing t with
  | nil => rfl
  | cons v rest ih =>
      have hrest := ih fun w hw => h w (List.mem_cons_of_mem _ hw)
      have hv := h v List.mem_cons_self
      rw [Environment.values_cons, Tree.setAll_append, hrest]
      rw [Environment.reaches] at hv
      cases hkey : Environment.keyOf v.1 with
      | none => rfl
      | some name =>
          have hset : t.setAll (((some name).map fun k => (k, Environment.treeOf v)).toList) =
              t.set name (Environment.treeOf v) := rfl
          rw [hset]
          rw [hkey, Option.bind_some] at hv
          cases hread : Path.read name with
          | none => rw [Tree.set, hread]
          | some p =>
              have hroot : p.root ≠ key.name := by simpa [hread] using hv
              rw [valueOf_set hread, if_neg hroot]

/-- In the merged configuration a key has the value of the last variable that reaches it, if that is
the variable of the key itself. -/
theorem valueOf_merged {key : Key} {v : Environment.Variable} {after : List Environment.Variable}
    (hof : Environment.isOf key v = true)
    (hlast : ∀ w ∈ after, Environment.reaches key w = false) (file : List (String × Tree))
    (before : List Environment.Variable) :
    valueOf (merged file (before ++ v :: after)) key = Environment.treeOf v := by
  have happend : Environment.values (before ++ v :: after) =
      Environment.values before ++ Environment.values (v :: after) := List.filterMap_append
  rw [merged, happend, Tree.setAll_append]
  obtain ⟨u, hu, hset⟩ := valueOf_values_cons hof after
    (((Tree.empty.setAll defaults).setAll file).setAll (Environment.values before))
  rw [hset, valueOf_values hlast, hu]

/-- Every setting that is a text gets the text of its variable in the form in which the value that
it spells is printed.  So exactly the verbatim texts arrive as they were given, among them all with
a character that no value has.  Loading fails only for the other keys, so with a file or without
one the text arrives whenever the others are converted. -/
theorem text_of_environment {folder : Folder} {path : Option String} {file : List (String × Tree)}
    {key : Key} {v : Environment.Variable} {after : List Environment.Variable}
    (hfile : fileValues folder path = .ok file) (hkey : key.isText = true)
    (hof : Environment.isOf key v = true)
    (hlast : ∀ w ∈ after, Environment.reaches key w = false)
    (before : List Environment.Variable) :
    (∀ s, load folder path (before ++ v :: after) = .ok s →
      ∃ text, s.get key = .text text ∧ (text = v.2 ↔ Environment.Verbatim v.2) ∧
        ∀ x, Environment.Spells v.2 x → x.toText (some environmentName) = .ok text) ∧
    ((∃ c ∈ v.2.toList, Environment.isValueChar c = false) → Environment.Verbatim v.2) ∧
    ((∃ s, load folder path (before ++ v :: after) = .ok s) ↔
      ∀ other, other ≠ key →
        ∃ x, other.read (valueOf (merged file (before ++ v :: after)) other) = .ok x) ∧
    ∀ f, load folder path (before ++ v :: after) = .error f →
      ∃ other m, other ≠ key ∧ f = .mismatch other m ∧
        other.read (valueOf (merged file (before ++ v :: after)) other) = .error m := by
  have hload : load folder path (before ++ v :: after) =
      ofTree (merged file (before ++ v :: after)) := by
    rw [load, hfile]
    rfl
  obtain ⟨text, htext⟩ := Environment.exists_toText (some environmentName) v.2
  have hread : key.read (valueOf (merged file (before ++ v :: after)) key) = .ok (.text text) := by
    rw [valueOf_merged hof hlast, Key.read_of_isText hkey, Environment.treeOf, Tree.toText, htext]
    rfl
  have hfault : ∀ f, load folder path (before ++ v :: after) = .error f →
      ∃ other m, other ≠ key ∧ f = .mismatch other m ∧
        other.read (valueOf (merged file (before ++ v :: after)) other) = .error m := by
    intro f hf
    obtain ⟨other, m, hmismatch, hother⟩ := mismatch_of_ofTree (hload.symm.trans hf)
    refine ⟨other, m, ?_, hmismatch, hother⟩
    rintro rfl
    cases hread.symm.trans hother
  refine ⟨fun s hs => ⟨text, ?_, ?_, ?_⟩, ?_, ⟨?_, ?_⟩, hfault⟩
  · have hget := read_of_ofTree (hload.symm.trans hs) key
    exact (Except.ok.inj (hread.symm.trans hget)).symm
  · constructor
    · rintro rfl
      exact Environment.verbatim_of_toText _ htext
    · intro hverbatim
      have hsame := Environment.toText_of_verbatim (some environmentName) hverbatim
      exact Except.ok.inj (htext.symm.trans hsame)
  · intro x hx
    rw [← Environment.scalarOf_of_spells hx]
    exact htext
  · rintro ⟨c, hc, hother⟩
    exact Environment.verbatim_of_mem hc hother
  · rintro ⟨s, hs⟩ other _
    exact ⟨_, read_of_ofTree (hload.symm.trans hs) other⟩
  · intro hothers
    cases hresult : load folder path (before ++ v :: after) with
    | ok s => exact ⟨s, rfl⟩
    | error f =>
        obtain ⟨other, m, hne, _, hother⟩ := hfault f hresult
        obtain ⟨x, hx⟩ := hothers other hne
        cases hx.symm.trans hother

/-- The variables of an address and, behind it, of a hint that is all digits. -/
def addressed : List Environment.Variable :=
  [("ALARMWATCH_INTERVAL_MS", "900")] ++
    ("ALARMWATCH_BASE_URL", "http://h:8000/") :: [("ALARMWATCH_DETAIL_HINT", "007")]

theorem text_of_environment_of_addressed :
    fileValues covered.folder covered.path = .ok covered.file ∧
      Environment.isOf .baseUrl ("ALARMWATCH_BASE_URL", "http://h:8000/") = true ∧
      Environment.reaches .baseUrl ("ALARMWATCH_DETAIL_HINT", "007") = false ∧
      ∃ s, load covered.folder covered.path addressed = .ok s ∧
        s.get .baseUrl = .text "http://h:8000/" := by
  have hlast : ∀ w ∈ [(("ALARMWATCH_DETAIL_HINT", "007") : Environment.Variable)],
      Environment.reaches .baseUrl w = false := by decide
  have hof : Environment.isOf .baseUrl ("ALARMWATCH_BASE_URL", "http://h:8000/") = true := by decide
  obtain ⟨hvalue, hverbatim, hloads, _⟩ := text_of_environment covered.file_read rfl hof hlast
    [("ALARMWATCH_INTERVAL_MS", "900")]
  obtain ⟨s, hs⟩ := hloads.mpr fun other _ => by
    cases other <;> exact ⟨_, rfl⟩
  obtain ⟨text, hget, hsame, _⟩ := hvalue s hs
  obtain rfl := hsame.mpr (hverbatim ⟨'/', by decide, by decide⟩)
  exact ⟨covered.file_read, hof, hlast _ List.mem_cons_self, s, hs, hget⟩

/-- The leading zeros of a hint that is all digits are lost. -/
theorem text_altered :
    ∃ s, load [] none [("ALARMWATCH_DETAIL_HINT", "007")] = .ok s ∧
      s.get .detailHint = .text "7" ∧ s.get .detailHint ≠ .text "007" :=
  ⟨_, rfl, rfl, by decide⟩

end AlarmMonitor.Settings
