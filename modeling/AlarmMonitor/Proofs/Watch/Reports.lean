import AlarmMonitor.Proofs.Install.Reports
import AlarmMonitor.Proofs.Watch.LastKnown

/-!
# Bodies that reach the status

Only a body that is a report can reach the status and the poller: an object that gives its texts as
strings or null, or an array that lists them.  Every other body ends the question that it answers,
and nothing else.

* `System.fetched_of_apply`: what comes of the reply to a question that leaves the status alone;
* `System.only_reports_act`: which bodies are reports, and what comes of all others;
* `System.list_acts`: an array that sets the status.
-/

set_option autoImplicit false

namespace AlarmMonitor.Watch

open AlarmMonitor.Backend (Reply)
open AlarmMonitor.Install (Status Report)
open AlarmMonitor.Json (Document)

/-- A body that is no report names no status. -/
theorem recognised_of_read_eq_none {body : String} (h : Report.read body = none) :
    recognised (.body body) = none := by
  rw [recognised, Install.reported, h]
  rfl

namespace System

/-- A question that leaves the status alone ends with what its reply names. -/
theorem fetched_of_apply {s t : System} {id : Nat} {reply : Reply} {effects : List Effect}
    (htask : s.task? id = some (.fetch (.answered reply)))
    (h : s.apply (.step id) = some (t, effects)) :
    t = s.setTask id (.fetch (.ended (answer reply))) ∧ effects = [] := by
  have hstep : s.stepFetch id (.answered reply) = some (t, effects) := stepTask_of_apply htask h
  obtain ⟨ht, heffects⟩ := Prod.mk.inj (Option.some.inj hstep)
  exact ⟨ht.symm, heffects.symm⟩

/-- A body is a report exactly if it is the text of an object in which all names denote something
and each of the texts is absent, or given once as null or a string, or of an array of at most two
items that are null or strings; and the report is the one in the document.  Every other body ends
the question of the task that has it as its reply, with notes about it, and leaves everything else
as it is: the status, every subscriber, the poller and the client. -/
theorem only_reports_act (body : String) :
    ((Report.read body).isSome ↔
      (∃ members, (Document.object members).WrittenAs body ∧
        (∀ m ∈ members, m.1.meaning.isSome) ∧
        ∀ f : Report.Field, f.documents members = [] ∨
          ∃ d, f.documents members = [d] ∧ Report.IsText d) ∨
      ∃ items, (Document.array items).WrittenAs body ∧ items.length ≤ 2 ∧
        ∀ d ∈ items, Report.IsText d) ∧
    (∀ d : Document, d.WrittenAs body → Report.read body = Report.ofDocument? d) ∧
    (Report.read body = none →
      (∀ (s : System) id task t told, s.task? id = some task → task.reply? = some (.body body) →
        s.apply (.step id) = some (t, told) →
        t = s.setTask id task.passed ∧ ∀ x ∈ told, ∃ n, x = .note n) ∧
      ∀ (s : System) id t told, s.task? id = some (.fetch (.answered (.body body))) →
        s.apply (.step id) = some (t, told) →
        t = s.setTask id (.fetch (.ended (.ok none))) ∧ told = []) := by
  refine ⟨Report.isSome_read_iff, fun d => Report.read_writtenAs, fun hread => ⟨?_, ?_⟩⟩
  · intro s id task t told htask hreply h
    exact passed_of_apply htask hreply (recognised_of_read_eq_none hread) h
  · intro s id t told htask h
    obtain ⟨ht, htold⟩ := fetched_of_apply htask h
    have hanswer : answer (.body body) = .ok none :=
      congrArg Except.ok (recognised_of_read_eq_none hread)
    exact ⟨hanswer ▸ ht, htold⟩

/-- A single check has an array of three strings as its reply. -/
def overfull : List Event := [.check, .step 0, .deliver 0 (.body "[\"install\",null,\"\"]")]

theorem only_reports_act_of_overfull :
    ∃ s effects t told, (build "" .none .standard .uninstall).run overfull = some (s, effects) ∧
      s.apply (.step 0) = some (t, told) ∧ t.cell = s.cell ∧
      t.task? 0 = some (.check (.ended .unrecognised)) := by
  have hends : ((build "" .none .standard .uninstall).run overfull).map (fun r => r.1.slots[0]?) =
      some (some ⟨.check (.answered (.body "[\"install\",null,\"\"]")), false⟩) := rfl
  obtain ⟨⟨s, effects⟩, hrun, hslot⟩ := Option.map_eq_some_iff.mp hends
  obtain ⟨t, told, happly, htask⟩ := check_ends hslot
  have hread : Report.read "[\"install\",null,\"\"]" = none := rfl
  obtain ⟨rfl, _⟩ := ((only_reports_act "[\"install\",null,\"\"]").2.2 hread).1 s 0 _ t told
    (task?_of_slot hslot rfl) rfl happly
  exact ⟨s, effects, _, told, hrun, happly, rfl, htask⟩

/-- An array that lists a status is no text of an object, and sets the status. -/
theorem list_acts :
    (∀ members, ¬ (Document.object members).WrittenAs "[\"install\"]") ∧
      recognised (.body "[\"install\"]") = some .install := by
  refine ⟨fun members h => ?_, rfl⟩
  have htokens := Json.Lexer.run_laid h (Document.object members).parted_lexemes
  have hlist : Json.Lexer.run "[\"install\"]".toList =
      some [.openArray, .string (some "install"), .closeArray] := rfl
  rw [hlist] at htokens
  cases htokens

end System

end AlarmMonitor.Watch
