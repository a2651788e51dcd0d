import AlarmMonitor.Alarm.Key
import AlarmMonitor.Proofs.Json.Unambiguous

/-!
# Records with the same key

A key tells two records apart that differ in what their keys are made of: the whole record if it has
neither an id nor a time beside a message, and otherwise the texts of time and message, provided
that the time does not contain the sign that stands between them.  The message may contain it.

* `KeyForm.stamped_key_inj`: time and message are found again in a key;
* `Record.key_separates`: what records without doubles have in common if their keys are the same.
-/

set_option autoImplicit false

namespace AlarmMonitor.Alarm

open AlarmMonitor.Json

/-- The first separator of a text is the one behind a front part without separators. -/
theorem append_separator_inj {α : Type} {c : α} {xs ys xs' ys' : List α} (hxs : c ∉ xs)
    (hxs' : c ∉ xs') (h : xs ++ c :: ys = xs' ++ c :: ys') : xs = xs' ∧ ys = ys' := by
  induction xs generalizing xs' with
  | nil =>
      cases xs' with
      | nil => simpa using h
      | cons d xs' =>
          have hd : c ≠ d := fun hcd => hxs' (by simp [hcd])
          exact absurd (List.cons.inj h).1 hd
  | cons b xs ih =>
      cases xs' with
      | nil =>
          have hb : c ≠ b := fun hcb => hxs (by simp [hcb])
          exact absurd (List.cons.inj h).1.symm hb
      | cons d xs' =>
          obtain ⟨rfl, htail⟩ := List.cons.inj h
          obtain ⟨rfl, rfl⟩ := ih (fun hm => hxs (List.mem_cons_of_mem _ hm))
            (fun hm => hxs' (List.mem_cons_of_mem _ hm)) htail
          exact ⟨rfl, rfl⟩

/-- Time and message are found again in a key, unless the time contains the separator. -/
theorem KeyForm.stamped_key_inj {time message time' message' : String} (ht : '|' ∉ time.toList)
    (ht' : '|' ∉ time'.toList) (h : (stamped time message).key = (stamped time' message').key) :
    time = time' ∧ message = message' := by
  have hchars : time.toList ++ '|' :: message.toList = time'.toList ++ '|' :: message'.toList := by
    simpa [KeyForm.key] using congrArg String.toList h
  obtain ⟨htime, hmessage⟩ := append_separator_inj ht ht' hchars
  exact ⟨String.toList_inj.mp htime, String.toList_inj.mp hmessage⟩

namespace Record

variable {r s : Record}

/-- The record has no id, and no time beside a message. -/
def IsWhole (r : Record) : Prop :=
  r.field "id" = none ∧ (r.field "timestamp" = none ∨ r.message = none)

/-- The record has no id, but this time and this message. -/
structure IsStamped (r : Record) (time message : Value) : Prop where
  id : r.field "id" = none
  time : r.field "timestamp" = some time
  message : r.message = some message

/-- All numbers in the record are integers of 64 bits, with or without a sign. -/
def WithoutDoubles (r : Record) : Prop := r.value.EveryNumber Number.IsInteger

theorem keyForm_of_whole (h : r.IsWhole) : r.keyForm = .whole r.value.text := by
  obtain ⟨hid, hrest⟩ := h
  rw [keyForm, hid]
  rcases hrest with htime | hmessage
  · simp [htime]
  · cases r.field "timestamp" <;> simp [hmessage]

theorem keyForm_of_stamped {time message : Value} (h : r.IsStamped time message) :
    r.keyForm = .stamped (plainText time) (plainText message) := by
  rw [keyForm, h.id, h.time, h.message]

/-- Records without doubles that have the same key have in common what their keys are made of: their
whole values, the members of which are kept in the order of names, or the texts of time and
message. -/
theorem key_separates (hr : r.WithoutDoubles) (hs : s.WithoutDoubles) :
    (r.IsWhole → s.IsWhole → r.key = s.key → r.value = s.value) ∧
      ∀ time message time' message' : Value, r.IsStamped time message →
        s.IsStamped time' message' → '|' ∉ (plainText time).toList →
        '|' ∉ (plainText time').toList → r.key = s.key →
        plainText time = plainText time' ∧ plainText message = plainText message' := by
  constructor
  · intro hwhole hwhole' hkey
    rw [key, key, keyForm_of_whole hwhole, keyForm_of_whole hwhole'] at hkey
    exact Value.text_injective hr hs hkey
  · intro time message time' message' hstamped hstamped' htime htime' hkey
    rw [key, key, keyForm_of_stamped hstamped, keyForm_of_stamped hstamped'] at hkey
    exact KeyForm.stamped_key_inj htime htime' hkey

/-- An alarm without a time. -/
def untimed : Record := ⟨.object [("level", .number (.int 3)), ("source", .string "cam1")]⟩

/-- An alarm at a time that is a number. -/
def counted : Record := ⟨.object [("message", .string "a|b"), ("timestamp", .number (.int 5))]⟩

/-- An alarm at a time that is a text, with a level. -/
def levelled : Record :=
  ⟨.object [("level", .number (.int 3)), ("msg", .string "a|b"), ("timestamp", .string "5")]⟩

/-- Two alarms at the same time with the same message have the same key, whatever else they say. -/
theorem key_separates_counted_levelled :
    (untimed.WithoutDoubles ∧ untimed.IsWhole ∧ untimed.value = untimed.value) ∧
      counted.WithoutDoubles ∧ levelled.WithoutDoubles ∧ counted.key = levelled.key ∧
      plainText (.number (.int 5)) = plainText (.string "5") := by
  have hint : ∀ i : Int, Json.Number.inIntegerRange i = true →
      (Value.number (.int i)).EveryNumber Number.IsInteger := fun i hi => .number ⟨i, rfl, hi⟩
  have huntimed : untimed.WithoutDoubles :=
    .object (by simpa using ⟨hint 3 (by decide), .string _⟩)
  have hcounted : counted.WithoutDoubles :=
    .object (by simpa using ⟨.string _, hint 5 (by decide)⟩)
  have hlevelled : levelled.WithoutDoubles :=
    .object (by simpa using ⟨hint 3 (by decide), .string _, .string _⟩)
  have hwhole : untimed.IsWhole := by
    simp [IsWhole, field, untimed, Value.member?, Value.lookup]
  have hkey : counted.key = levelled.key := by decide
  refine ⟨⟨huntimed, hwhole, (key_separates huntimed huntimed).1 hwhole hwhole rfl⟩, hcounted,
    hlevelled, hkey, ?_⟩
  exact ((key_separates hcounted hlevelled).2 _ _ _ _ ⟨rfl, rfl, rfl⟩ ⟨rfl, rfl, rfl⟩ (by decide)
    (by decide) hkey).1

end Record

end AlarmMonitor.Alarm
