import AlarmMonitor.Proofs.Settings.Floors
import AlarmMonitor.Settings.Load

/-!
# The layers of the settings

Every key takes its value from the highest layer that has one: the command line, the environment,
the file, the defaults.  What the layers below have for it does not matter, and neither does what
any layer has for other keys.

* `supplied`: the value that a source has for a key; `supplied_values` says which variable it is
  in the environment;
* `read_setAll`: what merging a source does to a key;
* `Sources`: what settings are loaded from, with no name that leads below a key;
* `Sources.value`: the value of a key from the highest layer that has one;
* `highest_layer_wins`: these values are what is loaded.
-/

set_option autoImplicit false

namespace AlarmMonitor.Settings

/-! ## Values of keys -/

/-- The value of a setting. -/
inductive Setting where
  | text (s : String)
  | natural (n : Nat)
  deriving DecidableEq, Repr

/-- The setting of a key. -/
def get (s : Settings) : Key → Setting
  | .baseUrl => .text s.baseUrl
  | .alarmEndpoint => .text s.alarmEndpoint
  | .interval => .natural s.interval
  | .installEndpoint => .text s.installEndpoint
  | .syncInterval => .natural s.syncInterval
  | .timeout => .natural s.timeout
  | .detailHint => .text s.detailHint

/-- The value on the command line that counts for a key. -/
def Overrides.get? (o : Overrides) : Key → Option Setting
  | .baseUrl => o.baseUrl.map .text
  | .alarmEndpoint => o.alarmEndpoint.map .text
  | .interval => o.usable.map .natural
  | .installEndpoint => o.installEndpoint.map .text
  | .syncInterval => o.syncInterval.map .natural
  | .timeout => o.timeout.map .natural
  | .detailHint => .none

theorem Overrides.get?_none (key : Key) : Overrides.none.get? key = .none := by
  cases key <;> rfl

/-- The setting that the value of a key is converted to. -/
def Key.read (key : Key) (t : Tree) : Except Mismatch Setting :=
  match key with
  | .baseUrl | .alarmEndpoint | .installEndpoint | .detailHint => t.toText.map .text
  | .interval | .syncInterval | .timeout => t.toNatural.map .natural

theorem get_withOverrides (s : Settings) (o : Overrides) (key : Key) :
    (s.withOverrides o).1.get key = (o.get? key).getD (s.get key) := by
  have hmap : ∀ {α : Type} (f : α → Setting) (given : Option α) (below : α),
      f (given.getD below) = (given.map f).getD (f below) := by
    intro α f given below
    cases given with
    | none => rfl
    | some v => rfl
  cases key with
  | interval =>
      have hinterval := withOverrides_interval s o
      rw [get, hinterval]
      exact hmap _ _ _
  | baseUrl | alarmEndpoint | installEndpoint | syncInterval | timeout => exact hmap _ _ _
  | detailHint => rfl

/-! ## Members and names -/

theorem Tree.find_append (name : String) (first later : List (String × Tree)) :
    Tree.find name (first ++ later) = (Tree.find name first).or (Tree.find name later) := by
  induction first with
  | nil => rfl
  | cons m rest ih =>
      obtain ⟨n, t⟩ := m
      simp only [List.cons_append, Tree.find]
      split
      · rfl
      · exact ih

theorem Tree.find_update (f : Tree → Tree) (name root : String) (ms : List (String × Tree)) :
    Tree.find name (Tree.update f root ms) =
      if root = name then some (f ((Tree.find name ms).getD Tree.missing))
      else Tree.find name ms := by
  induction ms with
  | nil => rfl
  | cons m rest ih =>
      obtain ⟨n, t⟩ := m
      by_cases hroot : n = root
      · subst hroot
        simp only [Tree.update, if_pos, Tree.find]
        split
        · rfl
        · rfl
      · simp only [Tree.update, if_neg hroot, Tree.find, ih]
        by_cases hname : n = name
        · subst hname
          rw [if_pos rfl, if_pos rfl, if_neg (Ne.symm hroot)]
        · simp only [if_neg hname]

/-- A key names itself. -/
theorem Key.path_name (key : Key) : Path.read key.name = some ⟨key.name, []⟩ := by
  cases key <;> rfl

theorem Path.eq_nil_of_readSteps {fuel : Nat} {cs : List Char}
    (h : Path.readSteps fuel cs = some []) : cs = [] := by
  cases cs with
  | nil => rfl
  | cons c cs =>
      cases fuel with
      | zero => exact absurd h nofun
      | succ fuel =>
          simp only [Path.readSteps, Option.bind_eq_bind, Option.bind_eq_some_iff] at h
          obtain ⟨⟨step, rest⟩, _, steps, _, hcons⟩ := h
          exact absurd hcons (by simp)

/-- A name that leads to no place below its root is its root. -/
theorem Path.root_of_read {name root : String} (h : Path.read name = some ⟨root, []⟩) :
    root = name := by
  simp only [Path.read, Path.takeName, Option.bind_eq_bind, Option.bind_eq_some_iff] at h
  obtain ⟨⟨first, rest⟩, htake, steps, hsteps, hpath⟩ := h
  obtain ⟨rfl, rfl⟩ : first = root ∧ steps = [] := by simpa using hpath
  have hrest : rest = [] := Path.eq_nil_of_readSteps hsteps
  split at htake
  · exact absurd htake nofun
  · obtain ⟨hfirst, hdrop⟩ := Prod.mk.inj (Option.some.inj htake)
    have hsplit := List.takeWhile_append_dropWhile (p := Path.isNameChar) (l := name.toList)
    rw [hdrop, hrest, List.append_nil] at hsplit
    rw [← hfirst, hsplit, String.ofList_toList]

/-! ## Merging a source -/

/-- The value that a source has for a key; of several, the last. -/
def supplied (source : List (String × Tree)) (key : Key) : Option Tree :=
  Tree.find key.name source.reverse

/-- No name of the source leads below a key of the settings. -/
def Shallow (source : List (String × Tree)) : Prop :=
  ∀ name t, (name, t) ∈ source → ∀ p (key : Key), Path.read name = some p → p.root = key.name →
    p.steps = []

/-- Names of keys lead nowhere below them. -/
theorem shallow_of_names {source : List (String × Tree)}
    (h : ∀ m ∈ source, ∃ key : Key, m.1 = key.name) : Shallow source := by
  intro name t hmem p _ hread _
  obtain ⟨key, hname⟩ := h _ hmem
  rw [show name = key.name from hname, key.path_name] at hread
  rw [← Option.some.inj hread]

theorem supplied_cons (name : String) (t : Tree) (rest : List (String × Tree)) (key : Key) :
    supplied ((name, t) :: rest) key =
      (supplied rest key).or (if name = key.name then some t else none) := by
  unfold supplied
  rw [List.reverse_cons, Tree.find_append]
  rfl

/-- Merging a value at a place changes the key at its root. -/
theorem valueOf_set {name : String} {p : Path} (hread : Path.read name = some p) (t value : Tree)
    (key : Key) :
    valueOf (t.set name value) key =
      if p.root = key.name then
        Tree.updateAt (fun below => Tree.merge below value) p.steps (valueOf t key)
      else valueOf t key := by
  have hset : t.set name value = .table (Tree.update
      (Tree.updateAt (fun below => Tree.merge below value) p.steps) p.root t.members) := by
    unfold Tree.set
    rw [hread]
    rfl
  rw [valueOf, hset, Tree.members, Tree.find_update]
  split
  · rfl
  · rfl

/-- A value is read as if nothing were below it. -/
theorem Key.read_merge (key : Key) (below t : Tree) :
    key.read (Tree.merge below t) = key.read t := by
  cases t with
  | scalar origin s => simp [Tree.merge]
  | array origin items => simp [Tree.merge]
  | table ms =>
      -- the members below do not matter, for no table is converted
      rw [Tree.merge]
      cases key <;> rfl

/-- One value of a source is read under its own name, and nowhere else. -/
theorem Key.read_set {name : String} {value : Tree} {key : Key}
    (hsteps : ∀ p, Path.read name = some p → p.root = key.name → p.steps = []) (t : Tree) :
    key.read (valueOf (t.set name value) key) =
      key.read ((if name = key.name then some value else none).getD (valueOf t key)) := by
  cases hread : Path.read name with
  | none =>
      have hset : t.set name value = t := by
        unfold Tree.set
        rw [hread]
      have hname : name ≠ key.name := by
        rintro rfl
        exact absurd (hread.symm.trans key.path_name) nofun
      rw [hset, if_neg hname, Option.getD_none]
  | some p =>
      rw [valueOf_set hread]
      obtain ⟨root, steps⟩ := p
      by_cases hroot : root = key.name
      · obtain rfl : steps = [] := hsteps _ hread hroot
        have hname : name = key.name := (Path.root_of_read hread).symm.trans hroot
        rw [if_pos hroot, if_pos hname, Option.getD_some, Tree.updateAt, Key.read_merge]
      · have hname : name ≠ key.name := by
          rintro rfl
          rw [key.path_name] at hread
          exact hroot (congrArg Path.root (Option.some.inj hread)).symm
        rw [if_neg hroot, if_neg hname, Option.getD_none]

/-- A source covers the keys that it has a value for, and leaves the others as they are. -/
theorem read_setAll {source : List (String × Tree)} (hshallow : Shallow source) (t : Tree)
    (key : Key) :
    key.read (valueOf (t.setAll source) key) =
      key.read ((supplied source key).getD (valueOf t key)) := by
  induction source generalizing t with
  | nil => rfl
  | cons m rest ih =>
      obtain ⟨name, value⟩ := m
      have hrest : Shallow rest := fun n v hmem => hshallow n v (List.mem_cons_of_mem _ hmem)
      rw [Tree.setAll, ih hrest, supplied_cons]
      cases supplied rest key with
      | some v => rfl
      | none =>
          rw [Option.none_or, Option.getD_none]
          exact Key.read_set (fun p => hshallow name value List.mem_cons_self p key) t

theorem Tree.setAll_append (t : Tree) (first later : List (String × Tree)) :
    t.setAll (first ++ later) = (t.setAll first).setAll later := by
  induction first generalizing t with
  | nil => rfl
  | cons m rest ih => exact ih _

/-! ## The sources -/

theorem Environment.keyOf_eq_some_iff {name key : String} :
    Environment.keyOf name = some key ↔
      Environment.lower name = Environment.stem ++ key.toList := by
  rw [Environment.keyOf, Option.map_eq_some_iff, ← Text.behind_eq_some_iff]
  constructor
  · rintro ⟨rest, hrest, rfl⟩
    rw [hrest, String.toList_ofList]
  · intro hrest
    exact ⟨key.toList, hrest, String.ofList_toList⟩

/-- Is this the variable of the key?  Its name is the label and the key, in any case. -/
def Environment.isOf (key : Key) (v : Environment.Variable) : Bool :=
  Environment.lower v.1 = Environment.stem ++ key.name.toList

/-- What a variable stands for. -/
def Environment.treeOf (v : Environment.Variable) : Tree :=
  .scalar (some environmentName) (Environment.scalarOf v.2)

theorem Environment.values_cons (v : Environment.Variable) (rest : List Environment.Variable) :
    Environment.values (v :: rest) =
      ((Environment.keyOf v.1).map fun k => (k, Environment.treeOf v)).toList ++
        Environment.values rest := by
  simp only [Environment.values, List.filterMap_cons]
  cases Environment.keyOf v.1 <;> rfl

theorem Environment.find_values (vars : List Environment.Variable) (key : Key) :
    Tree.find key.name (Environment.values vars) =
      (vars.find? (Environment.isOf key)).map Environment.treeOf := by
  induction vars with
  | nil => rfl
  | cons v rest ih =>
      obtain ⟨name, text⟩ := v
      rw [Environment.values_cons, Tree.find_append, ih, List.find?_cons]
      by_cases hname : Environment.lower name = Environment.stem ++ key.name.toList
      · have hof : Environment.isOf key (name, text) = true := decide_eq_true hname
        rw [hof, Environment.keyOf_eq_some_iff.mpr hname]
        simp [Tree.find]
      · have hof : Environment.isOf key (name, text) = false := decide_eq_false hname
        rw [hof]
        cases hkey : Environment.keyOf name with
        | none => rfl
        | some other =>
            have hother : other ≠ key.name := by
              rintro rfl
              exact hname (Environment.keyOf_eq_some_iff.mp hkey)
            simp [Tree.find, hother]

/-- The environment has a value for a key exactly if it has a variable of it. -/
theorem supplied_values (vars : List Environment.Variable) (key : Key) :
    supplied (Environment.values vars) key =
      (vars.reverse.find? (Environment.isOf key)).map Environment.treeOf := by
  rw [supplied, ← Environment.find_values]
  simp only [Environment.values, List.filterMap_reverse]

theorem read_defaults (key : Key) :
    key.read (valueOf (Tree.empty.setAll defaults) key) = .ok (standard.get key) := by
  cases key <;> rfl

/-! ## Conversion -/

section Conversion

variable {α β : Type} {x : Except Mismatch α} {key : Key}

theorem bind_eq_ok {y : Except Fault α} {f : α → Except Fault β} {b : β}
    (h : y >>= f = .ok b) : ∃ a, y = .ok a ∧ f a = .ok b := by
  cases y with
  | error e => exact absurd h nofun
  | ok a => exact ⟨a, rfl, h⟩

theorem bind_eq_error {y : Except Fault α} {f : α → Except Fault β} {e : Fault}
    (h : y >>= f = .error e) : y = .error e ∨ ∃ a, f a = .error e := by
  cases y with
  | error e' => exact .inl (congrArg Except.error (Except.error.inj h))
  | ok a => exact .inr ⟨a, h⟩

theorem map_of_mapError_ok {v : α} (wrap : α → Setting)
    (h : x.mapError (Fault.mismatch key) = .ok v) : x.map wrap = .ok (wrap v) := by
  cases x with
  | error m => exact absurd h nofun
  | ok w => rw [← Except.ok.inj h]; rfl

theorem map_of_mapError_error {f : Fault} (wrap : α → Setting)
    (h : x.mapError (Fault.mismatch key) = .error f) :
    ∃ m, f = .mismatch key m ∧ x.map wrap = .error m := by
  cases x with
  | error m => exact ⟨m, (Except.error.inj h).symm, rfl⟩
  | ok w => exact absurd h nofun

theorem mapError_of_map_ok {v : α} {wrap : α → Setting}
    (hwrap : ∀ a b, wrap a = wrap b → a = b) (h : x.map wrap = .ok (wrap v)) :
    x.mapError (Fault.mismatch key) = .ok v := by
  cases x with
  | error m => exact absurd h nofun
  | ok w => rw [← hwrap w v (Except.ok.inj h)]; rfl

theorem mapError_congr {y : Except Mismatch α} {wrap : α → Setting}
    (hwrap : ∀ a b, wrap a = wrap b → a = b) (h : x.map wrap = y.map wrap) :
    x.mapError (Fault.mismatch key) = y.mapError (Fault.mismatch key) := by
  cases y with
  | error m =>
      cases x with
      | error n => rw [Except.error.inj h]
      | ok v => exact absurd h nofun
  | ok w =>
      rw [mapError_of_map_ok hwrap h]
      rfl

end Conversion

/-- What is loaded from a tree depends only on what every key is converted to. -/
theorem ofTree_congr {t u : Tree}
    (h : ∀ key : Key, key.read (valueOf t key) = key.read (valueOf u key)) :
    ofTree t = ofTree u := by
  have htext : ∀ key, (valueOf t key).toText.map Setting.text =
      (valueOf u key).toText.map Setting.text → textOf t key = textOf u key :=
    fun _ => mapError_congr fun _ _ => Setting.text.inj
  have hnatural : ∀ key, (valueOf t key).toNatural.map Setting.natural =
      (valueOf u key).toNatural.map Setting.natural → naturalOf t key = naturalOf u key :=
    fun _ => mapError_congr fun _ _ => Setting.natural.inj
  rw [ofTree, ofTree, htext .baseUrl (h .baseUrl), htext .alarmEndpoint (h .alarmEndpoint),
    hnatural .interval (h .interval), htext .installEndpoint (h .installEndpoint),
    hnatural .syncInterval (h .syncInterval), hnatural .timeout (h .timeout),
    htext .detailHint (h .detailHint)]

/-- Every key of settings that are loaded from a tree was converted. -/
theorem read_of_ofTree {t : Tree} {s : Settings} (h : ofTree t = .ok s) (key : Key) :
    key.read (valueOf t key) = .ok (s.get key) := by
  obtain ⟨base, hbase, h⟩ := bind_eq_ok h
  obtain ⟨alarm, halarm, h⟩ := bind_eq_ok h
  obtain ⟨interval, hinterval, h⟩ := bind_eq_ok h
  obtain ⟨install, hinstall, h⟩ := bind_eq_ok h
  obtain ⟨sync, hsync, h⟩ := bind_eq_ok h
  obtain ⟨timeout, htimeout, h⟩ := bind_eq_ok h
  obtain ⟨hint, hhint, h⟩ := bind_eq_ok h
  obtain rfl := Except.ok.inj h
  cases key with
  | baseUrl => exact map_of_mapError_ok .text hbase
  | alarmEndpoint => exact map_of_mapError_ok .text halarm
  | interval => exact map_of_mapError_ok .natural hinterval
  | installEndpoint => exact map_of_mapError_ok .text hinstall
  | syncInterval => exact map_of_mapError_ok .natural hsync
  | timeout => exact map_of_mapError_ok .natural htimeout
  | detailHint => exact map_of_mapError_ok .text hhint

/-- If no settings are loaded from a tree, then a key is not converted, and the fault is its. -/
theorem mismatch_of_ofTree {t : Tree} {f : Fault} (h : ofTree t = .error f) :
    ∃ key m, f = .mismatch key m ∧ Key.read key (valueOf t key) = .error m := by
  have htext : ∀ key, textOf t key = .error f →
      ∃ m, f = .mismatch key m ∧ (valueOf t key).toText.map Setting.text = .error m :=
    fun _ => map_of_mapError_error .text
  have hnatural : ∀ key, naturalOf t key = .error f →
      ∃ m, f = .mismatch key m ∧ (valueOf t key).toNatural.map Setting.natural = .error m :=
    fun _ => map_of_mapError_error .natural
  rcases bind_eq_error h with hbase | ⟨_, h⟩
  · exact ⟨.baseUrl, htext _ hbase⟩
  rcases bind_eq_error h with halarm | ⟨_, h⟩
  · exact ⟨.alarmEndpoint, htext _ halarm⟩
  rcases bind_eq_error h with hinterval | ⟨_, h⟩
  · exact ⟨.interval, hnatural _ hinterval⟩
  rcases bind_eq_error h with hinstall | ⟨_, h⟩
  · exact ⟨.installEndpoint, htext _ hinstall⟩
  rcases bind_eq_error h with hsync | ⟨_, h⟩
  · exact ⟨.syncInterval, hnatural _ hsync⟩
  rcases bind_eq_error h with htimeout | ⟨_, h⟩
  · exact ⟨.timeout, hnatural _ htimeout⟩
  rcases bind_eq_error h with hhint | ⟨_, h⟩
  · exact ⟨.detailHint, htext _ hhint⟩
  exact absurd h nofun

/-! ## Precedence -/

/-- What settings are loaded from.  No name in the file or in the environment leads below a key. -/
structure Sources where
  folder : Folder
  path : Option String
  vars : List Environment.Variable
  /-- The values of the file. -/
  file : List (String × Tree)
  file_read : fileValues folder path = .ok file
  file_shallow : Shallow file
  vars_shallow : Shallow (Environment.values vars)

namespace Sources

/-- Loads the settings. -/
def load (x : Sources) : Except Fault Settings := Settings.load x.folder x.path x.vars

/-- The value of a key in the environment. -/
def inEnvironment (x : Sources) (key : Key) : Option Tree :=
  (x.vars.reverse.find? (Environment.isOf key)).map Environment.treeOf

/-- The value of a key in the file. -/
def inFile (x : Sources) (key : Key) : Option Tree := supplied x.file key

/-- The value of a key from the highest layer that has one, converted. -/
def value (x : Sources) (o : Overrides) (key : Key) : Except Mismatch Setting :=
  ((o.get? key).map .ok
    |>.or ((x.inEnvironment key).map key.read)
    |>.or ((x.inFile key).map key.read)).getD (.ok (standard.get key))

/-- In the merged configuration a key is read from the highest layer that has a value for it. -/
theorem read_merged (x : Sources) (key : Key) :
    key.read (valueOf (merged x.file x.vars) key) = x.value Overrides.none key := by
  rw [merged, read_setAll x.vars_shallow, supplied_values, ← inEnvironment, value,
    Overrides.get?_none]
  cases x.inEnvironment key with
  | some t => rfl
  | none =>
      rw [Option.getD_none, read_setAll x.file_shallow, ← inFile]
      cases x.inFile key with
      | some t => rfl
      | none => exact read_defaults key

theorem load_eq (x : Sources) : x.load = ofTree (merged x.file x.vars) := by
  rw [load, Settings.load, x.file_read]
  rfl

/-- An override takes the place of the value of the layers below. -/
theorem value_of_load (x : Sources) {s : Settings} (h : x.load = .ok s) (o : Overrides)
    (key : Key) : x.value o key = .ok ((s.withOverrides o).1.get key) := by
  have hbelow : x.value Overrides.none key = .ok (s.get key) := by
    rw [← read_merged]
    exact read_of_ofTree (x.load_eq.symm.trans h) key
  rw [value, Overrides.get?_none] at hbelow
  rw [get_withOverrides, value]
  cases o.get? key with
  | some v => rfl
  | none => exact hbelow

/-- What settings cannot be loaded for is the value of a key from the highest layer that has one. -/
theorem mismatch_of_load (x : Sources) {f : Fault} (h : x.load = .error f) :
    ∃ key m, f = .mismatch key m ∧ x.value Overrides.none key = .error m := by
  obtain ⟨key, m, hfault, hread⟩ := mismatch_of_ofTree (x.load_eq.symm.trans h)
  exact ⟨key, m, hfault, (x.read_merged key).symm.trans hread⟩

theorem load_congr {x y : Sources}
    (h : ∀ key, y.value Overrides.none key = x.value Overrides.none key) : y.load = x.load := by
  rw [load_eq, load_eq]
  refine ofTree_congr fun key => ?_
  rw [read_merged, read_merged, h]

end Sources

/-- Every key of the settings has the converted value of the highest layer that has one, in the
order command line, environment, file, defaults.  Loading fails only for such a value, so not for
one that a higher layer covers; and what the layers have for one key makes no difference to the
others. -/
theorem highest_layer_wins (x : Sources) :
    (∀ s, x.load = .ok s → ∀ o key, x.value o key = .ok ((s.withOverrides o).1.get key)) ∧
    ((∃ s, x.load = .ok s) ↔ ∀ key, ∃ v, x.value Overrides.none key = .ok v) ∧
    (∀ f, x.load = .error f →
      ∃ key m, f = .mismatch key m ∧ x.value Overrides.none key = .error m) ∧
    (∀ y : Sources, (∀ key, y.inEnvironment key = x.inEnvironment key) →
      (∀ key, x.inEnvironment key = none → y.inFile key = x.inFile key) → y.load = x.load) ∧
    ∀ s, x.load = .ok s → ∀ (y : Sources) s', y.load = .ok s' → ∀ o o' key,
      Overrides.get? o' key = Overrides.get? o key → y.inEnvironment key = x.inEnvironment key →
      y.inFile key = x.inFile key →
      (s'.withOverrides o').1.get key = (s.withOverrides o).1.get key := by
  refine ⟨fun s hload o key => x.value_of_load hload o key, ⟨?_, ?_⟩, ?_, ?_, ?_⟩
  · rintro ⟨s, hload⟩ key
    exact ⟨_, x.value_of_load hload Overrides.none key⟩
  · intro hvalues
    cases hload : x.load with
    | ok s => exact ⟨s, rfl⟩
    | error f =>
        obtain ⟨key, m, _, hmismatch⟩ := x.mismatch_of_load hload
        obtain ⟨v, hvalue⟩ := hvalues key
        exact absurd (hmismatch.symm.trans hvalue) nofun
  · exact fun f hload => x.mismatch_of_load hload
  · intro y henvironment hfile
    refine Sources.load_congr fun key => ?_
    rw [Sources.value, Sources.value, henvironment]
    cases hcovered : x.inEnvironment key with
    | some t => rw [Overrides.get?_none]; rfl
    | none => rw [hfile key hcovered]
  · intro s hload y s' hload' o o' key hoverride henvironment hfile
    have hfield := x.value_of_load hload o key
    have hfield' := y.value_of_load hload' o' key
    rw [Sources.value, hoverride, henvironment, hfile, ← Sources.value, hfield] at hfield'
    exact (Except.ok.inj hfield').symm

/-- A file whose interval is no number, for which the environment has one. -/
def covered : Sources where
  folder := [("watch.ini", "interval_ms=soon\ntimeout_ms=7")]
  path := some "watch.ini"
  vars := [("ALARMWATCH_INTERVAL_MS", "900")]
  file := [("interval_ms", .scalar (some "watch.ini") (.text "soon")),
    ("timeout_ms", .scalar (some "watch.ini") (.text "7"))]
  file_read := by
    have hfind : File.find [("watch.ini", "interval_ms=soon\ntimeout_ms=7")] "watch.ini" =
        some ⟨"watch.ini", .ini, "interval_ms=soon\ntimeout_ms=7"⟩ := rfl
    have htext : Ini.read "interval_ms=soon\ntimeout_ms=7" =
        some [("interval_ms", .text "soon"), ("timeout_ms", .text "7")] := rfl
    simp only [fileValues, File.read, hfind, Format.read, htext, Option.bind_eq_bind,
      Option.bind_some]
    rfl
  file_shallow := shallow_of_names (by
    simp only [List.forall_mem_cons]
    exact ⟨⟨.interval, rfl⟩, ⟨.timeout, rfl⟩, nofun⟩)
  vars_shallow := shallow_of_names (by
    have hvalues : Environment.values [("ALARMWATCH_INTERVAL_MS", "900")] =
        [("interval_ms", .scalar (some environmentName) (.integer 900))] := rfl
    rw [hvalues]
    simp only [List.forall_mem_cons]
    exact ⟨⟨.interval, rfl⟩, nofun⟩)

theorem highest_layer_wins_of_covered :
    ∃ s, covered.load = .ok s ∧
      (s.withOverrides lowOverride).1.get .interval = .natural 900 ∧
      (s.withOverrides lowOverride).1.get .timeout = .natural 7 ∧
      (s.withOverrides lowOverride).1.get .baseUrl = standard.get .baseUrl := by
  obtain ⟨s, hload⟩ := (highest_layer_wins covered).2.1.mpr fun key => by
    cases key <;> exact ⟨_, rfl⟩
  have hvalue := (highest_layer_wins covered).1 s hload lowOverride
  exact ⟨s, hload, (Except.ok.inj (hvalue .interval)).symm, (Except.ok.inj (hvalue .timeout)).symm,
    (Except.ok.inj (hvalue .baseUrl)).symm⟩

end AlarmMonitor.Settings
