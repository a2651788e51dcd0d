import AlarmMonitor.Proofs.Polling.Delivery

/-!
# Where texts come from

Whatever is handed to the sink is the text of a record in a body that the backend has delivered, in
every run and in every one of its cycles.

* `Carries`: the records that the deliveries of a run bring;
* `Cycle.FromBackend`, `System.fromBackend_of_apply`: what a cycle has in hand was delivered, and
  every transition keeps it so;
* `System.shown_of_run`: so are the records whose texts are shown.
-/

set_option autoImplicit false

namespace AlarmMonitor.Polling

open AlarmMonitor.Alarm (Record)

/-- Do the events deliver a body that has this record? -/
def Carries (events : List Event) (r : Record) : Prop :=
  ∃ id body, .deliver id (.body body) ∈ events ∧ r ∈ Alarm.ofBody body

theorem Carries.append {events : List Event} {r : Record} (h : Carries events r)
    (more : List Event) : Carries (events ++ more) r := by
  obtain ⟨id, body, hdeliver, hr⟩ := h
  exact ⟨id, body, List.mem_append_left more hdeliver, hr⟩

/-! ## Texts in hand -/

/-- What a cycle has in hand was delivered: the reply itself, or the records whose texts are left to
be shown. -/
def Cycle.FromBackend (hint : String) (events : List Event) : Cycle → Prop
  | .answered _ _ (.body body) => ∃ id, .deliver id (.body body) ∈ events
  | .showing _ _ rest => ∀ text ∈ rest, ∃ r, Carries events r ∧ r.render hint = text
  | _ => True

variable {hint : String} {events : List Event}

theorem Cycle.FromBackend.append {cycle : Cycle} (h : cycle.FromBackend hint events)
    (more : List Event) : cycle.FromBackend hint (events ++ more) := by
  cases cycle with
  | answered session endpoint reply =>
      cases reply with
      | body body =>
          obtain ⟨id, hdeliver⟩ := h
          exact ⟨id, List.mem_append_left more hdeliver⟩
      | failure => trivial
  | showing fetched surfaced rest =>
      intro text htext
      obtain ⟨r, hr, hrender⟩ := h text htext
      exact ⟨r, hr.append more, hrender⟩
  | ready | waiting | ended => trivial

/-- A step of a cycle takes its texts from the reply, or leaves texts to be shown that it had. -/
theorem Cycle.Step.fromBackend {now place : Nat} {s state : State} {cycle next : Cycle}
    {told : List Effect} (h : Cycle.Step hint now place s cycle (state, next, told))
    (hcycle : cycle.FromBackend hint events) : next.FromBackend hint events := by
  cases h with
  | @taken _ _ body =>
      obtain ⟨id, hdeliver⟩ := hcycle
      intro text htext
      obtain ⟨r, hr, hrender⟩ := List.mem_map.mp htext
      have hbody : r ∈ Alarm.ofBody body := (s.seen.fresh_sublist _).subset hr
      exact ⟨r, ⟨id, body, hdeliver, hbody⟩, hrender⟩
  | shown => exact fun text htext => hcycle text (List.mem_cons_of_mem _ htext)
  | notRunning | debounced | request | fetchFailed | discarded | processed => trivial

/-- Only a step of a cycle that has texts to show shows one, and it is the next of them. -/
theorem Cycle.Step.showing_of_mem {now place : Nat} {s state : State} {cycle next : Cycle}
    {told : List Effect} {text : String}
    (h : Cycle.Step hint now place s cycle (state, next, told)) (htext : .show text ∈ told) :
    ∃ fetched surfaced rest, cycle = .showing fetched surfaced (text :: rest) := by
  cases h with
  | shown =>
      cases List.mem_singleton.mp htext
      exact ⟨_, _, _, rfl⟩
  | taken =>
      unfold Cycle.pruneNotes at htext
      split at htext
      · exact absurd htext List.not_mem_nil
      · cases List.mem_singleton.mp htext
  | debounced | request | fetchFailed | discarded => cases List.mem_singleton.mp htext
  | notRunning | processed => exact absurd htext List.not_mem_nil

namespace System

theorem showing_of_mem {s t : System} {e : Event} {told : List Effect} {text : String}
    (h : s.apply e = some (t, told)) (htext : .show text ∈ told) :
    ∃ id fetched surfaced rest, s.cycle? id = some (.showing fetched surfaced (text :: rest)) := by
  obtain ⟨u, hact, rfl⟩ := apply_eq_some_iff.mp h
  cases act_eq_some_iff.mp hact with
  | @step id slot p hslot _ hp =>
      rcases Task.inside_or_outside hp with ⟨owner, cycle, hin, hpiece⟩ | hout
      · obtain ⟨⟨state, next, effects⟩, hstep, rfl⟩ := Option.map_eq_some_iff.mp hpiece
        obtain ⟨fetched, surfaced, rest, rfl⟩ :=
          (Cycle.step_eq_some_iff.mp hstep).showing_of_mem htext
        exact ⟨id, fetched, surfaced, rest,
          cycle?_eq_some_iff.mpr ⟨owner, task?_eq_some_iff.mpr ⟨slot, hslot, hin⟩⟩⟩
      · rcases hout.effects _ htext with ⟨_, hnote⟩ | ⟨_, hspawned⟩
        · cases hnote
        · cases hspawned
  | configure =>
      rcases List.mem_append.mp htext with hnote | hanswer
      · obtain ⟨_, _, hnote⟩ := List.mem_map.mp hnote
        cases hnote
      · cases List.mem_singleton.mp hanswer
  | stop =>
      simp only [stop] at htext
      split at htext <;> split at htext <;> simp at htext
  | abort => cases List.mem_singleton.mp htext
  | start | poll | deliver | drop | clearHistory | tick | retain | release =>
      exact absurd htext List.not_mem_nil

/-- What the cycles of a poller have in hand was delivered. -/
def FromBackend (hint : String) (events : List Event) (s : System) : Prop :=
  ∀ id cycle, s.cycle? id = some cycle → cycle.FromBackend hint events

/-- Every transition keeps it so. -/
theorem fromBackend_of_apply {s t : System} {e : Event} {told : List Effect}
    (hhint : s.hint = hint) (hs : s.FromBackend hint events) (h : s.apply e = some (t, told)) :
    t.FromBackend hint (events ++ [e]) := by
  intro id cycle hcycle
  cases cycleOrigin_of_apply h hcycle with
  | ready => trivial
  | kept _ hbefore => exact (hs id _ hbefore).append [e]
  | @answered _ _ reply he =>
      cases reply with
      | body body => exact ⟨id, by simp [he]⟩
      | failure => trivial
  | stepped _ hbefore hstep =>
      rw [hhint] at hstep
      exact hstep.fromBackend ((hs id _ hbefore).append [e])

/-- Every text that is shown in a run is the text of a record that the run has delivered. -/
theorem shown_of_run {s : System} {effects : List Effect}
    (hrun : (new hint).run events = some (s, effects)) :
    ∀ text ∈ effects.filterMap Effect.shown?, ∃ r, Carries events r ∧ r.render hint = text := by
  -- a text is shown out of the hand of a cycle, so the induction carries what all cycles have there
  have hall : s.FromBackend hint events ∧
      ∀ text, .show text ∈ effects → ∃ r, Carries events r ∧ r.render hint = text := by
    induction events using List.reverseRecOn generalizing s effects with
    | nil =>
        cases hrun
        exact ⟨nofun, fun text htext => absurd htext List.not_mem_nil⟩
    | append_singleton events e ih =>
        obtain ⟨u, first, last, hfirst, hlast, rfl⟩ := run_append_eq_some_iff.mp hrun
        obtain ⟨v, told, more, happly, hnil, rfl⟩ := run_cons_eq_some_iff.mp hlast
        cases hnil
        obtain ⟨hu, hshown⟩ := ih hfirst
        refine ⟨fromBackend_of_apply (hint_of_run hfirst) hu happly, fun text htext => ?_⟩
        rcases List.mem_append.mp htext with hbefore | hnow
        · obtain ⟨r, hr, hrender⟩ := hshown text hbefore
          exact ⟨r, hr.append [e], hrender⟩
        · rw [List.append_nil] at hnow
          obtain ⟨id, fetched, surfaced, rest, hcycle⟩ := showing_of_mem happly hnow
          obtain ⟨r, hr, hrender⟩ := hu id _ hcycle text List.mem_cons_self
          exact ⟨r, hr.append [e], hrender⟩
  intro text htext
  obtain ⟨x, hx, htext⟩ := List.mem_filterMap.mp htext
  cases x with
  | «show» shown =>
      obtain rfl := Option.some.inj htext
      exact hall.2 _ hx
  | note | request | configured | spawned | aborted => cases htext

end System

end AlarmMonitor.Polling
