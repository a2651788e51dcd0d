import AlarmMonitor.Polling.Cycle
import AlarmMonitor.Proofs.Json.Complete
import AlarmMonitor.Proofs.Json.Rearrangement

/-!
# Alarms from rearranged bodies

The order in which the backend writes the members of its objects and the layout that it puts between
the lexemes do not show: the alarms have the same keys, messages and texts, and a cycle does the same
with them.

* `ofBody_rearranged`: what two bodies have in common that differ in order and layout only;
* `ofBody_rearranged_idFirst`: a body with layout, its members in another order.
-/

set_option autoImplicit false

namespace AlarmMonitor.Alarm

open AlarmMonitor.Json
open AlarmMonitor.Polling (Cycle State)

theorem ofBody_eq_of_parse_eq {first second : String} (h : parse first = parse second) :
    ofBody first = ofBody second := by
  rw [ofBody, ofBody, h]

/-- Every body that can be read is the text of a document.  Two texts of documents that differ in the
order of members, at any depth, carry as many alarms, and at each place alarms with the same key and
the same message, shown in the same way behind any hint, provided that no object repeats a name.  A
cycle that takes in one of them does the same as if it took in the other: it shows the same texts and
leaves the same history. -/
theorem ofBody_rearranged (first : String) :
    ((parse first).isSome → ∃ d : Document, d.WrittenAs first) ∧
      ∀ (d e : Document) (second : String), d.WrittenAs first → e.WrittenAs second →
        d.Rearranged e → d.NamesDiffer →
        (ofBody first).length = (ofBody second).length ∧
          (∀ (i : Nat) (hi : i < (ofBody first).length) (hj : i < (ofBody second).length),
            (ofBody first)[i].key = (ofBody second)[i].key ∧
              (ofBody first)[i].message = (ofBody second)[i].message ∧
              ∀ hint, (ofBody first)[i].render hint = (ofBody second)[i].render hint) ∧
          ∀ (hint : String) (now task : Nat) (s : State) (session : Nat) (endpoint : String),
            Cycle.step hint now task s (.answered session endpoint (.body first)) =
              Cycle.step hint now task s (.answered session endpoint (.body second)) := by
  constructor
  · intro hread
    obtain ⟨v, hv⟩ := Option.isSome_iff_exists.mp hread
    obtain ⟨d, hwritten, -⟩ := parse_eq_some_iff.mp hv
    exact ⟨d, hwritten⟩
  · intro d e second hfirst hsecond horder hnames
    have hrecords : ofBody first = ofBody second :=
      ofBody_eq_of_parse_eq (parse_rearranged hfirst hsecond horder hnames)
    refine ⟨by rw [hrecords], ?_, ?_⟩
    · intro i hi hj
      simp [hrecords]
    · intro hint now task s session endpoint
      simp [Cycle.step, State.closeCycle, hrecords]

/-! ## A body and its rearrangement -/

/-- The name `id`. -/
def idName : Quotation := [.plain 'i' (by decide), .plain 'd' (by decide)]

/-- The name `msg`, one letter of which is written as a code unit. -/
def msgName : Quotation :=
  [.unit ⟨'0', rfl⟩ ⟨'0', rfl⟩ ⟨'6', rfl⟩ ⟨'D', rfl⟩, .plain 's' (by decide),
    .plain 'g' (by decide)]

/-- An alarm, its id first. -/
def idFirst : Document :=
  .array [.object [(idName, .number (.ofInt 7)), (msgName, .string idName)]]

/-- The same alarm, its message first. -/
def msgFirst : Document :=
  .array [.object [(msgName, .string idName), (idName, .number (.ofInt 7))]]

/-- The body of the first, without layout. -/
def compactBody : String := "[\x7b\"id\":7,\"\\u006Dsg\":\"id\"\x7d]"

/-- The body of the second, with layout. -/
def laidOutBody : String := "[\x7b \"\\u006Dsg\": \"id\", \"id\": 7\x7d]"

/-- A body without layout, and one with layout and the members in another order, carry as many
alarms. -/
theorem ofBody_rearranged_idFirst :
    (idFirst.WrittenAs compactBody ∧ msgFirst.WrittenAs laidOutBody ∧
      idFirst.Rearranged msgFirst ∧ idFirst.NamesDiffer) ∧
    (ofBody compactBody).length = (ofBody laidOutBody).length := by
  have hcompact : idFirst.WrittenAs compactBody := laid_compact idFirst.lexemes
  have hlaid : msgFirst.WrittenAs laidOutBody := by
    have hspace : ∀ l : Lexeme, IsLayout (if l.isMark then [] else [' ']) := by
      intro l
      cases l.isMark <;> simp [IsLayout, Lexer.isLayout]
    exact laid_flatMap hspace msgFirst.lexemes
  have horder : idFirst.Rearranged msgFirst :=
    .item [] [] (.members (List.Perm.swap _ _ _))
  have hnames : idFirst.NamesDiffer := by
    refine .array fun d hd => ?_
    obtain rfl := List.mem_singleton.mp hd
    refine .object (by decide) ?_
    simp only [List.forall_mem_cons]
    exact ⟨.number _, .string _, by simp⟩
  obtain ⟨-, hbodies⟩ := ofBody_rearranged compactBody
  exact ⟨⟨hcompact, hlaid, horder, hnames⟩,
    (hbodies idFirst msgFirst laidOutBody hcompact hlaid horder hnames).1⟩

end AlarmMonitor.Alarm
