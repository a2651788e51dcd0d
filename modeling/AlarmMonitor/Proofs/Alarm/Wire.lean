import AlarmMonitor.Alarm.Key
import AlarmMonitor.Proofs.Alarm.Keys
import AlarmMonitor.Proofs.Json.Doubles
import Mathlib.Logic.Relation

/-!
# Alarms on the wire

Records without doubles that are written into a body, as an array or as the member `data` of an
object, are read from it as they were.  The other members of the object may be anything that can be
written: doubles among them may be read as other doubles, but the body can be read.

* `Envelope`: a value that carries records and can be written and read;
* `ofBody_text`: the records in the text of an envelope;
* `Resent`: a body whose records come from another body;
* `survives_wire`: the records, keys, messages and texts behind any number of such steps.
-/

set_option autoImplicit false

namespace AlarmMonitor.Json

/-- The number is one that a value can hold: an integer of 64 bits, with or without a sign, or a
finite double. -/
def Number.IsHeld : Number → Prop
  | .int i => inIntegerRange i = true
  | .double d => d.IsFinite

theorem Number.IsHeld.isReadable {n : Number} (h : n.IsHeld) : n.IsReadable := by
  cases n with
  | int i => exact IsInteger.isReadable ⟨i, rfl, h⟩
  | double d => exact isReadable_double h

end AlarmMonitor.Json

namespace AlarmMonitor.Alarm

open AlarmMonitor.Json

/-- The value carries the records: as an array, or as the member `data` of an object. -/
inductive Carries (rs : List Record) : Value → Prop
  | bare : Carries rs (.array (rs.map (·.value)))
  | enveloped {members : List (String × Value)}
      (h : Value.lookup dataField members = some (.array (rs.map (·.value)))) :
      Carries rs (.object members)

/-- The value carries the records, lists members in the order of their different names, holds only
numbers that a value can hold, and is not too deep to be read. -/
structure Envelope (rs : List Record) (v : Value) : Prop where
  carries : Carries rs v
  sorted : v.IsSorted
  numbers : v.EveryNumber Number.IsHeld
  depth : v.depth ≤ maxDepth

variable {rs : List Record} {v : Value}

theorem mapItems_reread (h : ∀ r ∈ rs, r.WithoutDoubles) :
    Value.mapItems Number.reread (rs.map (·.value)) = rs.map (·.value) := by
  rw [Value.mapItems_eq_map, List.map_map]
  refine List.map_congr_left fun r hr => ?_
  exact Value.reread_of_integers (h r hr)

/-- Reading the numbers again does not change the records without doubles that a value carries. -/
theorem extract_reread (h : Carries rs v) (hrs : ∀ r ∈ rs, r.WithoutDoubles) :
    extract (v.mapNumbers Number.reread) = rs := by
  have hitems := mapItems_reread hrs
  have hrecords : (rs.map (·.value)).map Record.mk = rs := by
    rw [List.map_map]
    exact List.map_id rs
  cases h with
  | bare => rw [Value.mapNumbers, hitems, extract, hrecords]
  | @enveloped members hdata =>
      have hread : Value.lookup dataField (Value.mapMembers Number.reread members) =
          some (.array (rs.map (·.value))) := by
        rw [Value.lookup_mapMembers, hdata, Option.map_some, Value.mapNumbers, hitems]
      rw [Value.mapNumbers, extract, hread]
      exact hrecords

/-- The records without doubles in an envelope are read from its text as they were. -/
theorem ofBody_text (h : Envelope rs v) (hrs : ∀ r ∈ rs, r.WithoutDoubles) :
    ofBody v.text = rs := by
  have hparse := parse_text h.sorted (h.numbers.imp fun _ hn => hn.isReadable) h.depth
  rw [ofBody, hparse]
  exact extract_reread h.carries hrs

/-- Records that some envelope carries are carried by their array alone as well. -/
theorem Envelope.bare (h : Envelope rs v) : Envelope rs (.array (rs.map (·.value))) := by
  obtain ⟨hcarries, hsorted, hnumbers, hdepth⟩ := h
  cases hcarries with
  | bare => exact ⟨.bare, hsorted, hnumbers, hdepth⟩
  | enveloped hdata =>
      have hmem := Value.mem_of_lookup hdata
      cases hsorted with
      | object _ sorted =>
          cases hnumbers with
          | object numbers =>
              have hle := Value.membersDepth_le_iff.mp (le_refl _) _ hmem
              have hdepth' : Value.depth (.array (rs.map (·.value))) ≤ maxDepth :=
                hle.trans ((Nat.le_succ _).trans hdepth)
              exact ⟨.bare, sorted _ hmem, numbers _ hmem, hdepth'⟩

/-- The second body is the text of an envelope around the records in the first. -/
inductive Resent : String → String → Prop
  | mk {first : String} {v : Value} (h : Envelope (ofBody first) v) : Resent first v.text

/-- Records that were read from an envelope can be sent on. -/
theorem Envelope.exists_resent (h : Envelope rs v) (hrs : ∀ r ∈ rs, r.WithoutDoubles) :
    ∃ second, Resent v.text second := by
  refine ⟨_, .mk (v := .array (rs.map (·.value))) ?_⟩
  rw [ofBody_text h hrs]
  exact h.bare

/-- Records without doubles in an envelope are read from its text as they were, and behind any number
of steps that put what was read into another envelope, of which there is always one more, they still
have the same keys and messages and are shown in the same way. -/
theorem survives_wire (h : Envelope rs v) (hrs : ∀ r ∈ rs, r.WithoutDoubles) :
    ofBody v.text = rs ∧ ∀ last, Relation.ReflTransGen Resent v.text last →
      (∃ next, Resent last next) ∧ ofBody last = rs ∧
        (ofBody last).map Record.key = rs.map Record.key ∧
        (ofBody last).map Record.message = rs.map Record.message ∧
        ∀ hint, (ofBody last).map (·.render hint) = rs.map (·.render hint) := by
  refine ⟨ofBody_text h hrs, fun last hsteps => ?_⟩
  obtain ⟨w, hlast, henvelope⟩ : ∃ w : Value, last = w.text ∧ Envelope rs w := by
    induction hsteps with
    | refl => exact ⟨v, rfl, h⟩
    | tail _ hstep ih =>
        obtain ⟨w, rfl, henvelope⟩ := ih
        cases hstep with
        | @mk next hnext =>
            rw [ofBody_text henvelope hrs] at hnext
            exact ⟨next, rfl, hnext⟩
  have hread : ofBody last = rs := by
    rw [hlast]
    exact ofBody_text henvelope hrs
  refine ⟨?_, hread, by rw [hread], by rw [hread], fun hint => by rw [hread]⟩
  rw [hlast]
  exact henvelope.exists_resent hrs

/-! ## A body with a double -/

/-- An alarm with an object in it. -/
def nested : Record :=
  ⟨.object [("extra", .object [("a", .null), ("b", .array [.bool true, .string "\n"])]),
    ("id", .number (.int (-9223372036854775808)))]⟩

/-- The alarm under `data`, beside one and a half. -/
def besideDouble : Value :=
  .object [("count", .number (.double ⟨true, 6755399441055744, -52⟩)),
    ("data", .array [nested.value])]

/-- The alarm is read from the text of the envelope as it was. -/
theorem survives_wire_nested :
    (Envelope [nested] besideDouble ∧ ∀ r ∈ [nested], r.WithoutDoubles) ∧
      ofBody besideDouble.text = [nested] := by
  have hsorted : nested.value.IsSorted := by
    refine .object (by decide) ?_
    simp only [List.forall_mem_cons]
    refine ⟨.object (by decide) ?_, .number _, by simp⟩
    simp only [List.forall_mem_cons]
    refine ⟨.null, .array ?_, by simp⟩
    simp only [List.forall_mem_cons]
    exact ⟨.bool _, .string _, by simp⟩
  have hrecord : nested.WithoutDoubles := by
    refine .object ?_
    simp only [List.forall_mem_cons]
    refine ⟨.object ?_, .number ⟨_, rfl, by decide⟩, by simp⟩
    simp only [List.forall_mem_cons]
    refine ⟨.null, .array ?_, by simp⟩
    simp only [List.forall_mem_cons]
    exact ⟨.bool _, .string _, by simp⟩
  have hheld : nested.value.EveryNumber Number.IsHeld := by
    refine hrecord.imp ?_
    rintro _ ⟨i, rfl, hi⟩
    exact hi
  have henvelope : Envelope [nested] besideDouble := by
    refine ⟨.enveloped rfl, .object (by decide) ?_, .object ?_, by decide⟩
    · simp only [List.forall_mem_cons]
      exact ⟨.number _, .array (by simpa using hsorted), by simp⟩
    · simp only [List.forall_mem_cons]
      exact ⟨.number ⟨by decide, by decide, by decide⟩, .array (by simpa using hheld), by simp⟩
  have hrecords : ∀ r ∈ [nested], r.WithoutDoubles := by simpa using hrecord
  exact ⟨⟨henvelope, hrecords⟩, (survives_wire henvelope hrecords).1⟩

end AlarmMonitor.Alarm
