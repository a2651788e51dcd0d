import AlarmMonitor.Install.Report
import AlarmMonitor.Proofs.Json.Complete

/-!
# Passing over a document

The machine that passes over the value of a member takes every document, nested to any depth and
whatever its strings and numbers denote, and nothing else.

* `Skip.foldlM_document`: every document is passed over, with anything around it;
* `Skip.completes_of_step`: what is passed over are the lexemes of a document.
-/

set_option autoImplicit false

namespace AlarmMonitor.Install.Skip

open AlarmMonitor.Json (Token Document Quotation Lexeme)
open AlarmMonitor.Json.Document (tokens itemTokens memberTokens itemTokens_cons_cons
  memberTokens_singleton memberTokens_cons_cons)
open AlarmMonitor.Json.Reader (Frame State Closes Completes supply closes_of_supply)

/-! ## Every document is passed over -/

variable {outer : List Bracket} {rest : List Token} {canClose : Bool}

theorem step_value {t : Token} (h : t ≠ .closeArray) :
    step (.value canClose outer) t = readValue outer t := by
  simp [step, h]

theorem step_openArray :
    step (.value canClose outer) .openArray = some (.value true (.array :: outer)) :=
  step_value nofun

theorem step_openObject : step (.value canClose outer) .openObject = some (.name true outer) :=
  step_value nofun

theorem step_name (s : Option String) :
    step (.name canClose outer) (.string s) = some (.colon outer) := by
  cases canClose <;> rfl

/-- The document is passed over, whatever is around it. -/
def Passes (d : Document) : Prop :=
  ∀ (canClose : Bool) (outer : List Bracket) (rest : List Token),
    (d.tokens ++ rest).foldlM step (.value canClose outer) = rest.foldlM step (leave outer)

theorem foldlM_items {items : List Document} (hne : items ≠ []) (h : ∀ d ∈ items, Passes d)
    (canClose : Bool) :
    (itemTokens items ++ .closeArray :: rest).foldlM step (.value canClose (.array :: outer)) =
      rest.foldlM step (leave outer) := by
  induction items generalizing canClose with
  | nil => exact absurd rfl hne
  | cons d items ih =>
      have hd := h d List.mem_cons_self canClose (.array :: outer)
      cases items with
      | nil => exact hd _
      | cons e items =>
          rw [itemTokens_cons_cons, List.append_assoc, hd]
          exact ih (List.cons_ne_nil _ _) (fun d hd => h d (List.mem_cons_of_mem _ hd)) false

theorem foldlM_members {members : List (Quotation × Document)} (hne : members ≠ [])
    (h : ∀ m ∈ members, Passes m.2) (canClose : Bool) :
    (memberTokens members ++ .closeObject :: rest).foldlM step (.name canClose outer) =
      rest.foldlM step (leave outer) := by
  induction members generalizing canClose with
  | nil => exact absurd rfl hne
  | cons m members ih =>
      obtain ⟨name, d⟩ := m
      have hd := h (name, d) List.mem_cons_self false (.object :: outer)
      cases members with
      | nil =>
          rw [memberTokens_singleton, List.cons_append, List.foldlM_cons, step_name]
          exact hd _
      | cons m members =>
          rw [memberTokens_cons_cons, List.cons_append, List.foldlM_cons, step_name,
            List.cons_append, List.append_assoc]
          refine (hd _).trans ?_
          exact ih (List.cons_ne_nil _ _) (fun m hm => h m (List.mem_cons_of_mem _ hm)) false

/-- Every document is passed over: it may be nested to any depth and denote nothing. -/
theorem foldlM_document (d : Document) : Passes d := by
  induction d with
  | null | bool | number | string =>
      intro canClose outer rest
      simp [tokens, Document.lexemes, Lexeme.token, step_value, readValue]
  | array items ih =>
      intro canClose outer rest
      have htokens : (Document.array items).tokens ++ rest =
          .openArray :: (itemTokens items ++ .closeArray :: rest) := by
        simp [Document.tokens_array]
      rw [htokens, List.foldlM_cons, step_openArray]
      cases items with
      | nil => rfl
      | cons d items => exact foldlM_items (List.cons_ne_nil _ _) ih true
  | object members ih =>
      intro canClose outer rest
      have htokens : (Document.object members).tokens ++ rest =
          .openObject :: (memberTokens members ++ .closeObject :: rest) := by
        simp [Document.tokens_object]
      rw [htokens, List.foldlM_cons, step_openObject]
      cases members with
      | nil => rfl
      | cons m members => exact foldlM_members (List.cons_ne_nil _ _) ih true

/-! ## Nothing else is passed over -/

/-- What a bracket around a place waits for. -/
def frame : Bracket → Frame
  | .array => .array []
  | .object => .object [] ""

/-- Where a reader of values stands that is at the same place, inside of `below`. -/
def position (below : List Frame) : Skip → State
  | .value canClose outer => .value canClose (outer.map frame ++ below)
  | .name canClose outer => .name canClose [] (outer.map frame ++ below)
  | .colon outer => .colon [] "" (outer.map frame ++ below)
  | .behind .array outer => .item [] (outer.map frame ++ below)
  | .behind .object outer => .member [] (outer.map frame ++ below)
  | .done => supply .null below

variable {below : List Frame} {ls : List Lexeme}

theorem closes_of_leave {outer : List Bracket} (h : Completes ((leave outer).position below) ls) :
    Closes (outer.map frame ++ below) ls := by
  cases outer with
  | nil => exact closes_of_supply h
  | cons b outer => cases b <;> exact h

theorem completes_of_readValue {outer : List Bracket} {next : Skip} {l : Lexeme} (canClose : Bool)
    (hstep : readValue outer l.token = some next) (h : Completes (next.position below) ls) :
    Completes (.value canClose (outer.map frame ++ below)) (l :: ls) := by
  have leaf (d : Document) (hd : d.lexemes = [l]) (hnext : leave outer = next) :
      Completes (.value canClose (outer.map frame ++ below)) (l :: ls) := by
    subst hnext
    exact Json.Reader.completes_leaf hd (closes_of_leave h)
  cases l with
  | null => exact leaf .null rfl (Option.some.inj hstep)
  | bool b => exact leaf (.bool b) rfl (Option.some.inj hstep)
  | number n => exact leaf (.number n) rfl (Option.some.inj hstep)
  | string q => exact leaf (.string q) rfl (Option.some.inj hstep)
  | openArray =>
      obtain rfl := Option.some.inj hstep
      exact Json.Reader.completes_openArray h
  | openObject =>
      obtain rfl := Option.some.inj hstep
      exact Json.Reader.completes_openObject h
  | closeArray | closeObject | comma | colon => cases hstep

/-- A lexeme that is passed over and what follows it are what must follow before it. -/
theorem completes_of_step {skip next : Skip} {l : Lexeme} (hstep : skip.step l.token = some next)
    (h : Completes (next.position below) ls) : Completes (skip.position below) (l :: ls) := by
  cases skip with
  | value canClose outer =>
      by_cases hclose : l.token = .closeArray
      · obtain rfl := Json.Lexeme.eq_closeArray_of_token hclose
        obtain ⟨rfl, outer', rfl, rfl⟩ : canClose = true ∧ ∃ outer',
            outer = .array :: outer' ∧ leave outer' = next := by
          match canClose, outer with
          | true, .array :: outer' => exact ⟨rfl, outer', rfl, Option.some.inj hstep⟩
          | true, .object :: _ | true, [] | false, _ => cases hstep
        exact Json.Reader.completes_emptyArray (closes_of_leave h)
      · rw [step_value hclose] at hstep
        exact completes_of_readValue canClose hstep h
  | name canClose outer =>
      cases l with
      | string q =>
          rw [Lexeme.token, step_name] at hstep
          obtain rfl := Option.some.inj hstep
          exact Json.Reader.completes_name q h
      | closeObject =>
          cases canClose with
          | true =>
              obtain rfl := Option.some.inj hstep
              exact Json.Reader.completes_emptyObject (closes_of_leave h)
          | false => cases hstep
      | _ => cases canClose <;> cases hstep
  | colon outer =>
      cases l with
      | colon =>
          obtain rfl := Option.some.inj hstep
          exact Json.Reader.completes_colon h
      | _ => cases hstep
  | behind inner outer =>
      cases inner with
      | array =>
          cases l with
          | comma =>
              obtain rfl := Option.some.inj hstep
              exact Json.Reader.completes_nextItem h
          | closeArray =>
              obtain rfl := Option.some.inj hstep
              exact Json.Reader.completes_closeArray (closes_of_leave h)
          | _ => cases hstep
      | object =>
          cases l with
          | comma =>
              obtain rfl := Option.some.inj hstep
              exact Json.Reader.completes_nextMember h
          | closeObject =>
              obtain rfl := Option.some.inj hstep
              exact Json.Reader.completes_closeObject (closes_of_leave h)
          | _ => cases hstep
  | done => cases hstep

end AlarmMonitor.Install.Skip
