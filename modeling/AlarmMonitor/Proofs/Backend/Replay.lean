import AlarmMonitor.Backend.Script
import Mathlib.Data.List.Induction

/-!
# What a script replays

A script is used by acts on its endpoints, in any order.  What the calls of one endpoint are given
depends on the pushes and calls of this endpoint alone, and is told by them: every reply that was
pushed is served once, in the order of the pushes, and between two of them the one served last is
given again.

* `Line.Replays`: what a line knows of the acts before it;
* `Script.replies_eq_of_filter_eq`: endpoints do not touch each other;
* `Script.replays_of_acts`: the line of an endpoint behind any acts;
* `Script.replays_each_endpoint`: what comes of it for the calls of an endpoint.
-/

set_option autoImplicit false

namespace AlarmMonitor.Backend

/-! ## One line -/

/-- The line has served these replies for the first time, of those that were pushed, and has been
called so many times. -/
structure Line.Replays (l : Line Reply) (served pushed : List Reply) (calls : Nat) : Prop where
  order : served ++ l.queued = pushed
  last : l.last = served.getLast?
  calls : l.calls = calls

namespace Line.Replays

variable {l : Line Reply} {served pushed : List Reply} {calls : Nat}

theorem empty : (Line.empty : Line Reply).Replays [] [] 0 := ⟨rfl, rfl, rfl⟩

/-- A reply that is pushed waits behind all others. -/
theorem push (h : l.Replays served pushed calls) (reply : Reply) :
    (l.push reply).Replays served (pushed ++ [reply]) calls where
  order := by rw [Line.push, ← List.append_assoc, h.order]
  last := h.last
  calls := h.calls

/-- A call that finds a reply in the queue serves it. -/
theorem take_queued (h : l.Replays served pushed calls) {reply : Reply} {rest : List Reply}
    (hqueued : l.queued = reply :: rest) :
    l.take.1.Replays (served ++ [reply]) pushed (calls + 1) ∧ l.take.2 = some reply := by
  have htake : l.take = (⟨rest, some reply, l.calls + 1⟩, some reply) := by
    rw [Line.take, hqueued]
  rw [htake]
  refine ⟨⟨?_, ?_, ?_⟩, rfl⟩
  · rw [← h.order, hqueued, List.append_assoc]
    rfl
  · exact List.getLast?_concat.symm
  · rw [h.calls]

/-- A call that finds the queue empty gives the reply that was served last. -/
theorem take_empty (h : l.Replays served pushed calls) (hqueued : l.queued = []) :
    l.take.1.Replays served pushed (calls + 1) ∧ l.take.2 = served.getLast? := by
  have htake : l.take = ({ l with calls := l.calls + 1 }, l.last) := by
    rw [Line.take, hqueued]
  rw [htake]
  refine ⟨⟨h.order, h.last, ?_⟩, h.last⟩
  rw [h.calls]

end Line.Replays

namespace Script

/-! ## Acts -/

/-- What is done with a script. -/
inductive Act where
  | push (endpoint : String) (reply : Reply)
  | get (endpoint : String)
  /-- The number of calls of the endpoint is asked for. -/
  | calls (endpoint : String)
  deriving DecidableEq, Repr

namespace Act

/-- Does the act put a reply into the line of the endpoint, or call the endpoint? -/
def concerns (endpoint : String) : Act → Bool
  | .push e _ | .get e => e = endpoint
  | .calls _ => false

/-- The reply that the act pushes for the endpoint. -/
def pushed? (endpoint : String) : Act → Option Reply
  | .push e reply => if e = endpoint then some reply else none
  | _ => none

theorem concerns_eq_true_iff {endpoint : String} {a : Act} :
    a.concerns endpoint = true ↔ (∃ reply, a = .push endpoint reply) ∨ a = .get endpoint := by
  cases a with
  | push e reply => simp [concerns]
  | get e => simp [concerns]
  | calls e => simp [concerns]

end Act

/-- The script behind an act. -/
def act (s : Script Reply) : Act → Script Reply
  | .push endpoint reply => s.push endpoint reply
  | .get endpoint => (s.get endpoint).1
  | .calls _ => s

/-- The script behind acts, one after the other. -/
def behind (s : Script Reply) (acts : List Act) : Script Reply := acts.foldl act s

/-- What is seen of the script at the calls of an endpoint among acts, in order. -/
def atCalls (view : Script Reply → List Reply) (endpoint : String) (s : Script Reply) :
    List Act → List Reply
  | [] => []
  | a :: rest =>
    (if a = .get endpoint then view s else []) ++ (s.act a).atCalls view endpoint rest

/-- The replies to the calls of an endpoint, in order. -/
def replies (endpoint : String) : Script Reply → List Act → List Reply :=
  atCalls (fun s => [(s.get endpoint).2]) endpoint

/-- Those of them that the call found in the queue. -/
def served (endpoint : String) : Script Reply → List Act → List Reply :=
  atCalls (fun s => if (s.line endpoint).queued = [] then [] else [(s.get endpoint).2]) endpoint

/-- The replies that are pushed for an endpoint, in order. -/
def pushed (endpoint : String) (acts : List Act) : List Reply :=
  acts.filterMap (·.pushed? endpoint)

variable {endpoint : String} {s t : Script Reply}

/-! ## The line of an endpoint -/

theorem line_push (s : Script Reply) (e : String) (reply : Reply) :
    (s.push e reply).line endpoint =
      if e = endpoint then (s.line endpoint).push reply else s.line endpoint := by
  rw [push, line_setLine]
  split
  · next h => rw [h]
  · rfl

theorem line_get (s : Script Reply) (e : String) :
    (s.get e).1.line endpoint =
      if e = endpoint then (s.line endpoint).take.1 else s.line endpoint := by
  have hscript : (s.get e).1 = s.setLine e (s.line e).take.1 := rfl
  rw [hscript, line_setLine]
  split
  · next h => rw [h]
  · rfl

theorem get_snd (s : Script Reply) (endpoint : String) :
    (s.get endpoint).2 = ((s.line endpoint).take.2).getD (.refused endpoint) := rfl

/-- An act that does not concern an endpoint leaves its line alone. -/
theorem line_act_of_other {a : Act} (h : a.concerns endpoint = false) (s : Script Reply) :
    (s.act a).line endpoint = s.line endpoint := by
  cases a with
  | push e reply =>
      have he : e ≠ endpoint := by simpa [Act.concerns] using h
      rw [act, line_push, if_neg he]
  | get e =>
      have he : e ≠ endpoint := by simpa [Act.concerns] using h
      rw [act, line_get, if_neg he]
  | calls e => rfl

/-- What an act makes of the line of an endpoint is told by this line. -/
theorem line_act_congr (h : s.line endpoint = t.line endpoint) (a : Act) :
    (s.act a).line endpoint = (t.act a).line endpoint := by
  cases a with
  | push e reply => rw [act, act, line_push, line_push, h]
  | get e => rw [act, act, line_get, line_get, h]
  | calls e => exact h

/-! ## Endpoints do not touch each other -/

/-- What is seen of the line of an endpoint at its calls is told by the acts that concern it. -/
theorem atCalls_filter {view : Script Reply → List Reply}
    (hview : ∀ s t : Script Reply, s.line endpoint = t.line endpoint → view s = view t)
    (h : s.line endpoint = t.line endpoint) (acts : List Act) :
    s.atCalls view endpoint (acts.filter (·.concerns endpoint)) =
      t.atCalls view endpoint acts := by
  induction acts generalizing s t with
  | nil => rfl
  | cons a rest ih =>
      cases ha : a.concerns endpoint with
      | true =>
          rw [List.filter_cons_of_pos ha, atCalls, atCalls, hview s t h, ih (line_act_congr h a)]
      | false =>
          have hcall : a ≠ .get endpoint := by
            rintro rfl
            exact absurd (Act.concerns_eq_true_iff.mpr (Or.inr rfl)) (by rw [ha]; nofun)
          have hline : s.line endpoint = (t.act a).line endpoint :=
            h.trans (line_act_of_other ha t).symm
          rw [List.filter_cons_of_neg (by rw [ha]; nofun), atCalls, if_neg hcall, List.nil_append,
            ih hline]

/-- The replies to the calls of an endpoint are told by its pushes and calls: acts on other endpoints
may be left out, put in or moved. -/
theorem replies_eq_of_filter_eq {acts others : List Act}
    (h : others.filter (·.concerns endpoint) = acts.filter (·.concerns endpoint))
    (s : Script Reply) : s.replies endpoint others = s.replies endpoint acts := by
  have hview : ∀ s t : Script Reply, s.line endpoint = t.line endpoint →
      [(s.get endpoint).2] = [(t.get endpoint).2] := by
    intro s t h
    rw [get_snd, get_snd, h]
  calc s.replies endpoint others
      = s.replies endpoint (others.filter (·.concerns endpoint)) :=
        (atCalls_filter hview rfl others).symm
    _ = s.replies endpoint (acts.filter (·.concerns endpoint)) := by rw [h]
    _ = s.replies endpoint acts := atCalls_filter hview rfl acts

/-! ## The line behind acts -/

/-- One act keeps what the line of an endpoint knows of the acts before it. -/
theorem replays_act {old pushes : List Reply} {calls : Nat}
    (h : (s.line endpoint).Replays old pushes calls) (a : Act) :
    ((s.act a).line endpoint).Replays (old ++ s.served endpoint [a])
      (pushes ++ pushed endpoint [a]) (calls + [a].count (.get endpoint)) := by
  cases a with
  | push e reply =>
      have hserved : s.served endpoint [.push e reply] = [] := rfl
      rw [hserved, List.append_nil, act, line_push]
      by_cases he : e = endpoint
      · have hpushed : pushed endpoint [.push e reply] = [reply] := by
          simp [pushed, Act.pushed?, he]
        rw [hpushed, if_pos he]
        exact h.push reply
      · have hpushed : pushed endpoint [.push e reply] = [] := by
          simp [pushed, Act.pushed?, he]
        rw [hpushed, List.append_nil, if_neg he]
        exact h
  | get e =>
      have hpushed : pushed endpoint [.get e] = [] := rfl
      rw [hpushed, List.append_nil, act, line_get]
      by_cases he : e = endpoint
      · subst he
        rw [if_pos rfl, List.count_singleton_self]
        cases hqueued : (s.line e).queued with
        | nil =>
            have hserved : s.served e [.get e] = [] := by simp [served, atCalls, hqueued]
            rw [hserved, List.append_nil]
            exact (h.take_empty hqueued).1
        | cons reply rest =>
            obtain ⟨hline, hreply⟩ := h.take_queued hqueued
            have hserved : s.served e [.get e] = [reply] := by
              simp [served, atCalls, hqueued, get_snd, hreply]
            rw [hserved]
            exact hline
      · have hcall : Act.get e ≠ .get endpoint := fun heq => he (Act.get.inj heq)
        have hserved : s.served endpoint [.get e] = [] := by simp [served, atCalls, hcall]
        rw [hserved, List.append_nil, if_neg he, List.count_singleton, if_neg (by simpa using he)]
        exact h
  | calls e =>
      have hserved : s.served endpoint [.calls e] = [] := rfl
      have hpushed : pushed endpoint [.calls e] = [] := rfl
      rw [hserved, hpushed, List.append_nil, List.append_nil]
      exact h

theorem atCalls_append (view : Script Reply → List Reply) (first later : List Act) :
    s.atCalls view endpoint (first ++ later) =
      s.atCalls view endpoint first ++ (s.behind first).atCalls view endpoint later := by
  induction first generalizing s with
  | nil => rfl
  | cons a rest ih => rw [List.cons_append, atCalls, atCalls, ih, List.append_assoc]; rfl

theorem behind_append (s : Script Reply) (first later : List Act) :
    s.behind (first ++ later) = (s.behind first).behind later := List.foldl_append

/-- Behind any acts the line of an endpoint knows what was pushed for it and what its calls have
served. -/
theorem replays_of_acts (endpoint : String) (acts : List Act) :
    ((empty.behind acts).line endpoint).Replays (empty.served endpoint acts)
      (pushed endpoint acts) (acts.count (.get endpoint)) := by
  induction acts using List.reverseRecOn with
  | nil => exact .empty
  | append_singleton acts a ih =>
      have hserved : empty.served endpoint (acts ++ [a]) =
          empty.served endpoint acts ++ (empty.behind acts).served endpoint [a] :=
        atCalls_append _ acts [a]
      have hpushed : pushed endpoint (acts ++ [a]) =
          pushed endpoint acts ++ pushed endpoint [a] := List.filterMap_append
      rw [hserved, hpushed, List.count_append, behind_append]
      exact replays_act ih a

/-- A call behind acts adds its reply to the replies of its endpoint. -/
theorem replies_concat_get (endpoint : String) (acts : List Act) :
    s.replies endpoint (acts ++ [.get endpoint]) =
      s.replies endpoint acts ++ [((s.behind acts).get endpoint).2] := by
  have hcall : (s.behind acts).replies endpoint [.get endpoint] =
      [((s.behind acts).get endpoint).2] := by simp [replies, atCalls]
  rw [← hcall]
  exact atCalls_append _ acts [.get endpoint]

theorem served_concat_get (endpoint : String) (acts : List Act) :
    s.served endpoint (acts ++ [.get endpoint]) =
      s.served endpoint acts ++
        if ((s.behind acts).line endpoint).queued = [] then []
        else [((s.behind acts).get endpoint).2] := by
  have hcall : (s.behind acts).served endpoint [.get endpoint] =
      if ((s.behind acts).line endpoint).queued = [] then []
      else [((s.behind acts).get endpoint).2] := by simp [served, atCalls]
  rw [← hcall]
  exact atCalls_append _ acts [.get endpoint]

/-- Behind any acts on a new script: the replies to the calls of an endpoint are the same behind all
acts that push to it and call it in the same way, whatever is done to other endpoints in between;
what its calls have found in the queue and what still waits there are, in order, the replies that
were pushed for it; the next call serves the first reply that waits, and if none does, it gives the
one that was served last, or a failure that names the endpoint if none ever was; and the calls of the
endpoint are counted. -/
theorem replays_each_endpoint (endpoint : String) (acts : List Act) :
    (∀ others : List Act,
      others.filter (·.concerns endpoint) = acts.filter (·.concerns endpoint) →
      empty.replies endpoint others = empty.replies endpoint acts) ∧
    empty.served endpoint acts ++ ((empty.behind acts).line endpoint).queued =
      pushed endpoint acts ∧
    (∀ reply rest, ((empty.behind acts).line endpoint).queued = reply :: rest →
      empty.replies endpoint (acts ++ [.get endpoint]) =
        empty.replies endpoint acts ++ [reply] ∧
      empty.served endpoint (acts ++ [.get endpoint]) =
        empty.served endpoint acts ++ [reply]) ∧
    (((empty.behind acts).line endpoint).queued = [] →
      empty.replies endpoint (acts ++ [.get endpoint]) =
        empty.replies endpoint acts ++ [((empty.served endpoint acts).getLast?).getD
          (.failure ("connection refused: " ++ endpoint))] ∧
      empty.served endpoint (acts ++ [.get endpoint]) = empty.served endpoint acts) ∧
    (empty.behind acts).calls endpoint = acts.count (.get endpoint) := by
  have hline := replays_of_acts endpoint acts
  refine ⟨fun others h => replies_eq_of_filter_eq h empty, hline.order, ?_, ?_, hline.calls⟩
  · intro reply rest hqueued
    have hreply : ((empty.behind acts).get endpoint).2 = reply := by
      rw [get_snd, (hline.take_queued hqueued).2]
      rfl
    have hwaits : ((empty.behind acts).line endpoint).queued ≠ [] := by
      rw [hqueued]
      exact List.cons_ne_nil _ _
    rw [replies_concat_get, served_concat_get, if_neg hwaits, hreply]
    exact ⟨rfl, rfl⟩
  · intro hqueued
    have hreply : ((empty.behind acts).get endpoint).2 =
        ((empty.served endpoint acts).getLast?).getD (.refused endpoint) := by
      rw [get_snd, (hline.take_empty hqueued).2]
    rw [replies_concat_get, served_concat_get, if_pos hqueued, hreply, List.append_nil]
    exact ⟨rfl, rfl⟩

/-- Two replies are pushed for an endpoint and taken out again, one of them before the other is
pushed.  Another endpoint is used in between. -/
def interleaved : List Act :=
  [.push "/a" (.body "one"), .get "/b", .get "/a", .push "/b" (.body "two"), .calls "/a",
    .push "/a" (.failure "down"), .get "/b", .get "/a"]

/-- The acts on the other endpoint may be left out, and the failure that was served last is given
again. -/
theorem replays_each_endpoint_of_interleaved :
    empty.replies "/a" [.push "/a" (.body "one"), .get "/a", .push "/a" (.failure "down"),
        .get "/a"] = empty.replies "/a" interleaved ∧
      empty.replies "/a" (interleaved.take 2 ++ [.get "/a"]) =
        empty.replies "/a" (interleaved.take 2) ++ [.body "one"] ∧
      empty.replies "/a" (interleaved ++ [.get "/a"]) =
        empty.replies "/a" interleaved ++ [.failure "down"] ∧
      (empty.behind interleaved).calls "/a" = 2 := by
  obtain ⟨hothers, _, _, hempty, hcalls⟩ := replays_each_endpoint "/a" interleaved
  obtain ⟨_, _, hqueued, _⟩ := replays_each_endpoint "/a" (interleaved.take 2)
  exact ⟨hothers _ (by decide), (hqueued (.body "one") [] (by decide)).1,
    (hempty (by decide)).1, hcalls⟩

end Script

end AlarmMonitor.Backend
