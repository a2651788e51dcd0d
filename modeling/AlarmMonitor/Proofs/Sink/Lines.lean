import AlarmMonitor.Proofs.Json.Printable
import AlarmMonitor.Proofs.Polling.Texts
import AlarmMonitor.Proofs.Sink.Capacity

/-!
# The lines in which alarms are shown

The text of an alarm is written as it is.  If it has no line break, it is one line, behind the label;
if it has some, each of them ends a line, and what follows it begins the next one, without a label.
The compact text of a record has no line break, but a record that is a string may have some, and so
may a message that is a string and the hint behind it.

* `Alarm.Record.breaks_iff`: where the line breaks in the text of a record come from;
* `Terminal.segments_output`: the lines that texts come to;
* `Terminal.lines_of_shown`: the lines in which the alarms of a run are shown;
* `Terminal.forged_line`: one alarm that is shown as two.
-/

set_option autoImplicit false

namespace AlarmMonitor.Alarm

open AlarmMonitor.Json (Value)

/-- A plain text has a line break only if it is a string. -/
theorem string_of_break {v : Value} (h : '\n' ∈ (plainText v).toList) :
    v = .string (plainText v) := by
  cases v with
  | string s => rfl
  | null | bool | number | array | object => exact absurd (Value.isPrintable_text _ _ h) (by decide)

namespace Record

variable {r : Record} {hint : String}

/-- A message that is shown is that of one of two members. -/
theorem exists_of_shownMessage {s : String} (h : r.shownMessage = some s) :
    ∃ name v, (name = "message" ∨ name = "msg") ∧ r.field name = some v ∧ plainText v = s := by
  have hmem := List.mem_of_find?_eq_some h
  obtain ⟨field, hfield, hs⟩ := List.mem_filterMap.mp hmem
  obtain ⟨v, rfl, rfl⟩ := Option.map_eq_some_iff.mp hs
  rcases List.mem_cons.mp hfield with hmessage | hrest
  · exact ⟨"message", v, .inl rfl, hmessage.symm, rfl⟩
  · exact ⟨"msg", v, .inr rfl, (List.mem_singleton.mp hrest).symm, rfl⟩

/-- Where a line break in the text of a record comes from. -/
inductive Breaks (r : Record) (hint : String) : Prop where
  /-- The record is a string with a line break. -/
  | string {s : String} (h : r.value = .string s) (hs : '\n' ∈ s.toList)
  /-- It is shown by a message that is a string with a line break. -/
  | message {name s : String} (hname : name = "message" ∨ name = "msg")
      (h : r.field name = some (.string s)) (hshown : r.shownMessage = some s)
      (hs : '\n' ∈ s.toList)
  /-- The hint behind its message has a line break. -/
  | hint {s : String} (hshown : r.shownMessage = some s) (hhint : '\n' ∈ hint.toList)

/-- A record that is a string has no message. -/
theorem shownMessage_of_string {s : String} (h : r.value = .string s) : r.shownMessage = none := by
  obtain ⟨value⟩ := r
  cases h
  rfl

theorem render_of_string {s : String} (h : r.value = .string s) : r.render hint = s := by
  unfold render
  rw [h]

theorem render_of_shown {s : String} (h : r.shownMessage = some s) :
    r.render hint = s ++ hint := by
  unfold render
  split
  · next t hvalue => exact absurd (h.symm.trans (shownMessage_of_string hvalue)) nofun
  · rw [h]

theorem render_of_neither (hvalue : ∀ s, r.value ≠ .string s) (h : r.shownMessage = none) :
    r.render hint = r.value.text := by
  unfold render
  split
  · next t ht => exact absurd ht (hvalue t)
  · rw [h]

/-- The text of a record has a line break exactly if it comes from one of these places. -/
theorem breaks_iff : '\n' ∈ (r.render hint).toList ↔ r.Breaks hint := by
  constructor
  · intro h
    -- the cases of the rendering: a string, a message with the hint, and the compact text
    by_cases hstring : ∃ s, r.value = .string s
    · obtain ⟨s, hs⟩ := hstring
      rw [render_of_string hs] at h
      exact .string hs h
    cases hshown : r.shownMessage with
    | none =>
        rw [render_of_neither (fun s hs => hstring ⟨s, hs⟩) hshown] at h
        exact absurd (Value.isPrintable_text _ _ h) (by decide)
    | some s =>
        rw [render_of_shown hshown, String.toList_append] at h
        rcases List.mem_append.mp h with hs | hhint
        · obtain ⟨name, v, hname, hfield, rfl⟩ := exists_of_shownMessage hshown
          rw [string_of_break hs] at hfield
          exact .message hname hfield hshown hs
        · exact .hint hshown hhint
  · rintro (⟨h, hs⟩ | ⟨_, _, hshown, hs⟩ | ⟨hshown, hhint⟩)
    · rwa [render_of_string h]
    · rw [render_of_shown hshown, String.toList_append]
      exact List.mem_append_left _ hs
    · rw [render_of_shown hshown, String.toList_append]
      exact List.mem_append_right _ hhint

end Record

end AlarmMonitor.Alarm

namespace AlarmMonitor.Sink.Terminal

open AlarmMonitor.Text (encode encode_append encode_empty splitBy splitBy_append
  splitBy_append_front splitBy_of_not_mem length_splitBy)
open AlarmMonitor.Polling (Carries Effect Event)

/-! ## Lines -/

def isBreak (c : Char) : Bool := c == '\n'

theorem isBreak_of_not_mem {cs : List Char} (h : '\n' ∉ cs) : ∀ c ∈ cs, isBreak c = false := by
  intro c hc
  refine beq_eq_false_iff_ne.mpr ?_
  rintro rfl
  exact h hc

/-- What stands between the line breaks of a text. -/
def segments (text : String) : List (List Char) := splitBy isBreak text.toList

/-- What stands before a text in its line. -/
def front (label : String) : List Char := if label = "" then [] else label.toList ++ [' ']

theorem toList_line (label text : String) :
    (line label text).toList = (front label ++ text.toList) ++ ['\n'] := by
  unfold line front
  split <;> simp

/-- A label without a line break stands before the first segment of a text. -/
theorem segments_front {label : String} (h : '\n' ∉ label.toList) (text : String) :
    splitBy isBreak (front label ++ text.toList) =
      (segments text).modifyHead (front label ++ ·) := by
  have hfront : '\n' ∉ front label := by
    unfold front
    split
    · exact List.not_mem_nil
    · simpa using h
  exact splitBy_append_front (isBreak_of_not_mem hfront) _

/-- Each text is written segment by segment, the first one behind the label, with a line break behind
each of them. -/
theorem segments_output {label : String} (h : '\n' ∉ label.toList) (texts : List String) :
    segments (output label texts) =
      (texts.flatMap fun text => (segments text).modifyHead (front label ++ ·)) ++ [[]] := by
  induction texts with
  | nil => rfl
  | cons text rest ih =>
      have hbreak : isBreak '\n' = true := rfl
      rw [segments, output, String.toList_append, toList_line, List.append_assoc,
        List.singleton_append, splitBy_append hbreak, segments_front h, List.flatMap_cons,
        List.append_assoc, ← ih]
      rfl

/-- A text has one segment more than it has line breaks. -/
theorem length_segments (text : String) :
    (segments text).length = text.toList.count '\n' + 1 := length_splitBy _ _

/-- There is one line for each text and one for each line break in it. -/
theorem length_segments_output {label : String} (h : '\n' ∉ label.toList) (texts : List String) :
    (segments (output label texts)).length =
      texts.length + (texts.flatMap String.toList).count '\n' + 1 := by
  rw [segments_output h, List.length_append, List.length_singleton]
  congr 1
  induction texts with
  | nil => rfl
  | cons text rest ih =>
      rw [List.flatMap_cons, List.length_append, ih, List.length_modifyHead, length_segments,
        List.length_cons, List.flatMap_cons, List.count_append]
      omega

/-- Each text is one line exactly if none of them has a line break. -/
theorem segments_output_iff {label : String} (h : '\n' ∉ label.toList) (texts : List String) :
    segments (output label texts) =
        (texts.map fun text => front label ++ text.toList) ++ [[]] ↔
      ∀ text ∈ texts, '\n' ∉ text.toList := by
  constructor
  · intro hlines text htext
    have hlength := length_segments_output h texts
    rw [hlines, List.length_append, List.length_map, List.length_singleton] at hlength
    -- as many lines as texts leave none over for a line break
    have hnone : (texts.flatMap String.toList).count '\n' = 0 := by omega
    exact fun hbreak => List.count_eq_zero.mp hnone (List.mem_flatMap.mpr ⟨text, htext, hbreak⟩)
  · intro hwhole
    have hone : ∀ text ∈ texts, (segments text).modifyHead (front label ++ ·) =
        [front label ++ text.toList] := by
      intro text htext
      have hsegment : segments text = [text.toList] :=
        splitBy_of_not_mem (isBreak_of_not_mem (hwhole text htext))
      rw [hsegment]
      rfl
    rw [segments_output h, List.flatMap_congr hone, List.map_eq_flatMap]

/-! ## Notifications -/

/-- A writer that never fails gets all lines, and nothing is logged. -/
theorem notifyAll_unlimited {t : Terminal} (h : t.writer.room = none) (texts : List String) :
    t.notifyAll texts =
      (⟨t.label, t.writer.written ++ encode (output t.label texts), none⟩, []) := by
  induction texts generalizing t with
  | nil =>
      obtain ⟨label, written, _⟩ := t
      cases h
      simp [notifyAll, output, encode_empty]
  | cons text rest ih =>
      rw [notifyAll_cons, notify_unlimited h, ih rfl, output, encode_append, List.append_assoc]
      rfl

/-- For every label without a line break and all texts that a poller shows in a run: a new sink over
a writer that never fails writes a line for each of them and logs nothing.  A text is written segment
by segment, the first one behind the label, so that there is one line more for each line break in a
text, and exactly the texts without one are each a line of their own.  Each text is that of a record
that was delivered; it has a line break if and only if the record is a string with one, or is shown
by a message that is a string with one, or is shown by a message and the hint has one. -/
theorem lines_of_shown {label hint : String} {events : List Event} {s : Polling.System}
    {effects : List Effect} {texts : List String} (hlabel : '\n' ∉ label.toList)
    (hrun : (Polling.System.new hint).run events = some (s, effects))
    (htexts : effects.filterMap Effect.shown? = texts) :
    notifyAll ⟨label, .new none⟩ texts =
        (⟨label, ⟨encode (output label texts), none⟩⟩, []) ∧
      segments (output label texts) =
        (texts.flatMap fun text => (segments text).modifyHead (front label ++ ·)) ++ [[]] ∧
      (segments (output label texts)).length =
        texts.length + (texts.flatMap String.toList).count '\n' + 1 ∧
      (segments (output label texts) =
          (texts.map fun text => front label ++ text.toList) ++ [[]] ↔
        ∀ text ∈ texts, '\n' ∉ text.toList) ∧
      ∀ text ∈ texts, ∃ r, Carries events r ∧ r.render hint = text ∧
        ('\n' ∈ text.toList ↔ r.Breaks hint) := by
  refine ⟨notifyAll_unlimited rfl texts, segments_output hlabel texts,
    length_segments_output hlabel texts, segments_output_iff hlabel texts, ?_⟩
  intro text htext
  rw [← htexts] at htext
  obtain ⟨r, hr, rfl⟩ := Polling.System.shown_of_run hrun text htext
  exact ⟨r, hr, rfl, Alarm.Record.breaks_iff⟩

/-! ## Runs that look alike -/

/-- A start whose first request is answered with this body, and time to show two texts. -/
def answeredWith (body : String) : List Event :=
  [.start .none, .step 0, .step 0, .deliver 0 (.body body), .step 0, .step 0, .step 0]

/-- Two alarms. -/
def twoAlarms : List Event := answeredWith "[\"disk full\", \"fan failure\"]"

/-- One alarm, whose text goes on with a label behind a line break. -/
def oneAlarm : List Event := answeredWith "[\"disk full\\n[alarm] fan failure\"]"

/-- Two alarms without line breaks are shown in two lines. -/
theorem lines_of_shown_twoAlarms :
    ∃ s effects texts, '\n' ∉ defaultLabel.toList ∧
      (Polling.System.new "").run twoAlarms = some (s, effects) ∧
      effects.filterMap Effect.shown? = texts ∧
      segments (output defaultLabel texts) =
        ["[alarm] disk full".toList, "[alarm] fan failure".toList, []] := by
  have hlabel : '\n' ∉ defaultLabel.toList := by decide
  have hend : ((Polling.System.new "").run twoAlarms).map
      (fun r => r.2.filterMap Effect.shown?) = some ["disk full", "fan failure"] := by
    decide +kernel
  obtain ⟨⟨s, effects⟩, hrun, htexts⟩ := Option.map_eq_some_iff.mp hend
  obtain ⟨_, _, _, hlines, _⟩ := lines_of_shown hlabel hrun htexts
  exact ⟨s, effects, _, hlabel, hrun, htexts, hlines.mpr (by decide)⟩

/-- The one alarm is shown exactly as the two, in two lines, the second of which has its label from
the text of the alarm. -/
theorem forged_line :
    ((Polling.System.new "").run oneAlarm).map (fun r => r.2.filterMap Effect.shown?) =
        some ["disk full\n[alarm] fan failure"] ∧
      segments (output defaultLabel ["disk full\n[alarm] fan failure"]) =
        ["[alarm] disk full".toList, "[alarm] fan failure".toList, []] ∧
      ((Polling.System.new "").run twoAlarms).map (fun r => r.2.filterMap Effect.shown?) =
        some ["disk full", "fan failure"] ∧
      notifyAll ⟨defaultLabel, .new none⟩ ["disk full\n[alarm] fan failure"] =
        notifyAll ⟨defaultLabel, .new none⟩ ["disk full", "fan failure"] := by
  refine ⟨by decide +kernel, by decide +kernel, by decide +kernel, by decide +kernel⟩

end AlarmMonitor.Sink.Terminal
