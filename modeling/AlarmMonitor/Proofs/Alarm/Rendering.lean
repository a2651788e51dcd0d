import AlarmMonitor.Polling.History
import AlarmMonitor.Proofs.Alarm.Keys

/-!
# Keys and the texts in which alarms are shown

The key of an alarm at a time is made with the first of `message` and `msg` that is present; the
alarm is shown with the first that is not empty.  The two are the same unless `message` is present
and empty, and then alarms with the same key may read differently.

* `Record.shownMessage_of_message`: what is shown of a record, by its message;
* `Record.alike_iff_of_key_eq`: which records with the same key read alike;
* `Record.suppressed_though_different`: an alarm that is not shown because of another one, which
  reads differently.
-/

set_option autoImplicit false

namespace AlarmMonitor.Alarm

open AlarmMonitor.Json
open AlarmMonitor.Polling (History)

namespace Record

variable {r s : Record}

/-- A message with a text is shown; in place of an empty one, `msg` is shown if it has a text. -/
theorem shownMessage_of_message {message : Value} (h : r.message = some message) :
    r.shownMessage =
      if plainText message = "" then ((r.field "msg").map plainText).filter (· ≠ "")
      else some (plainText message) := by
  unfold Record.message at h
  unfold shownMessage
  cases hfirst : r.field "message" with
  | some first =>
      rw [hfirst, Option.some_or] at h
      cases h
      cases hsecond : r.field "msg" with
      | none => by_cases hempty : plainText message = "" <;> simp [hempty]
      | some second =>
          by_cases hempty : plainText message = "" <;>
            by_cases hother : plainText second = "" <;> simp [hempty, hother, Option.filter]
  | none =>
      rw [hfirst, Option.none_or] at h
      rw [h]
      by_cases hempty : plainText message = "" <;> simp [hempty, Option.filter]

/-- A record with a time is an object, and is shown by its message or as a whole. -/
theorem render_of_stamped {time message : Value} (h : r.IsStamped time message) (hint : String) :
    r.render hint = (r.shownMessage.map (· ++ hint)).getD r.value.text := by
  have htime := h.time
  unfold render
  split
  · rename_i s hs
    simp [field, hs, Value.member?] at htime
  · cases r.shownMessage <;> rfl

/-- A record that is shown by a message reads like another one behind every hint only if that one
is shown by the same message. -/
theorem shownMessage_of_alike {time message time' message' : Value} {m : String}
    (hr : r.IsStamped time message) (hs : s.IsStamped time' message')
    (hm : r.shownMessage = some m) (halike : ∀ hint, r.render hint = s.render hint) :
    s.shownMessage = some m := by
  simp only [render_of_stamped hr, render_of_stamped hs, hm, Option.map_some,
    Option.getD_some] at halike
  cases hshown : s.shownMessage with
  | some m' =>
      have hempty := halike ""
      rw [hshown] at hempty
      simpa using hempty.symm
  | none =>
      -- the text of a whole record does not change with the hint
      rw [hshown] at halike
      have hchange : m ++ "" = m ++ "." := (halike "").trans (halike ".").symm
      exact absurd (congrArg String.length hchange) (by simp)

/-- Two alarms at a time with the same key, at least one of which is shown by a message, read alike
behind every hint exactly if their message, which is the same, has a text, or if they have the same
text in `msg`. -/
theorem alike_iff_of_key_eq {time message time' message' : Value} (hr : r.IsStamped time message)
    (hs : s.IsStamped time' message') (htime : '|' ∉ (plainText time).toList)
    (htime' : '|' ∉ (plainText time').toList)
    (hshown : r.shownMessage.isSome ∨ s.shownMessage.isSome) (hkey : r.key = s.key) :
    (∀ hint, r.render hint = s.render hint) ↔
      plainText message ≠ "" ∨
        (r.field "msg").map plainText = (s.field "msg").map plainText := by
  have hmessage : plainText message = plainText message' := by
    rw [key, key, keyForm_of_stamped hr, keyForm_of_stamped hs] at hkey
    exact (KeyForm.stamped_key_inj htime htime' hkey).2
  have hshown_r := shownMessage_of_message hr.message
  have hshown_s := shownMessage_of_message hs.message
  rw [← hmessage] at hshown_s
  constructor
  · intro halike
    refine Classical.or_iff_not_imp_left.mpr fun hempty => ?_
    rw [ne_eq, not_not] at hempty
    -- both are shown by what they say in `msg`
    obtain ⟨m, hm, hm'⟩ : ∃ m, r.shownMessage = some m ∧ s.shownMessage = some m := by
      rcases hshown with h | h
      · obtain ⟨m, hm⟩ := Option.isSome_iff_exists.mp h
        exact ⟨m, hm, shownMessage_of_alike hr hs hm halike⟩
      · obtain ⟨m, hm⟩ := Option.isSome_iff_exists.mp h
        exact ⟨m, shownMessage_of_alike hs hr hm fun hint => (halike hint).symm, hm⟩
    rw [hshown_r, if_pos hempty] at hm
    rw [hshown_s, if_pos hempty] at hm'
    rw [(Option.filter_eq_some_iff.mp hm).1, (Option.filter_eq_some_iff.mp hm').1]
  · intro hcase hint
    have hsame : r.shownMessage = s.shownMessage := by
      rw [hshown_r, hshown_s]
      rcases hcase with htext | hmsg
      · rw [if_neg htext, if_neg htext]
      · rw [hmsg]
    have hsome : ∃ m, s.shownMessage = some m := by
      rw [hsame, or_self] at hshown
      exact Option.isSome_iff_exists.mp hshown
    obtain ⟨m, hm⟩ := hsome
    rw [render_of_stamped hr, render_of_stamped hs, hsame, hm]
    rfl

/-- Two alarms at the same time with the same message, which is `message` in one of them and `msg` in
the other. -/
theorem alike_iff_of_key_eq_counted :
    counted.key = levelled.key ∧ ∀ hint, counted.render hint = levelled.render hint := by
  have hkey : counted.key = levelled.key := by decide
  refine ⟨hkey, ?_⟩
  exact (alike_iff_of_key_eq (r := counted) (s := levelled) ⟨rfl, rfl, rfl⟩ ⟨rfl, rfl, rfl⟩
    (by decide) (by decide) (Or.inl (by decide)) hkey).mpr (Or.inl (by decide))

/-- An alarm with an empty message. -/
def fanStalled : Record :=
  ⟨.object [("message", .string ""), ("msg", .string "fan stalled"),
    ("timestamp", .number (.int 1))]⟩

/-- Another alarm at the same time, with an empty message too. -/
def doorOpen : Record :=
  ⟨.object [("message", .string ""), ("msg", .string "door open"),
    ("timestamp", .number (.int 1))]⟩

/-- Two alarms that read differently have the same key, and only the first is shown. -/
theorem suppressed_though_different :
    (fanStalled.IsStamped (.number (.int 1)) (.string "") ∧
      doorOpen.IsStamped (.number (.int 1)) (.string "") ∧
      '|' ∉ (plainText (.number (.int 1))).toList ∧ fanStalled.shownMessage = some "fan stalled" ∧
      doorOpen.shownMessage = some "door open" ∧ fanStalled.key = doorOpen.key) ∧
    fanStalled.render "" ≠ doorOpen.render "" ∧
    (History.empty.insertRecords [fanStalled, doorOpen]).2.map (·.render "") = ["fan stalled"] := by
  refine ⟨⟨⟨rfl, rfl, rfl⟩, ⟨rfl, rfl, rfl⟩, by decide, by decide, by decide, by decide⟩, by decide,
    by decide +kernel⟩

end Record

end AlarmMonitor.Alarm
