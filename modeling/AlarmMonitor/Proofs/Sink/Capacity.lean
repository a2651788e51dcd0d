import AlarmMonitor.Sink.Terminal
import Mathlib.Data.List.Basic

/-!
# Lines in a writer with limited room

A line reaches a writer in pieces, and each piece in writes that take as few bytes as the writer
likes.  However they are taken, the writer holds the front of all lines, as much of it as fits, and
exactly the lines that do not fit are logged.

* `Writer.writes_iff`, `Writer.writesAll_iff`: short writes come to the same as one write;
* `Writer.putAll_eq_put`: the pieces of a line come to the same as the line;
* `Terminal.notifies_limited`: the writer and the log behind any texts;
* `Terminal.cut_at_capacity`: what comes of it for a new writer.
-/

set_option autoImplicit false

namespace AlarmMonitor.Text

theorem encode_append (s t : String) : encode (s ++ t) = encode s ++ encode t := by
  simp [encode]

theorem encode_empty : encode "" = [] := rfl

end AlarmMonitor.Text

namespace AlarmMonitor.Sink

open AlarmMonitor.Text (encode encode_append encode_empty)

namespace Writer

/-! ## Short writes -/

/-- The writer behind a write that has taken these bytes. -/
def took (w : Writer) (taken : List UInt8) : Writer :=
  ⟨w.written ++ taken, w.room.map (· - taken.length)⟩

/-- Bytes are handed to a writer until it has taken all of them.  Each write takes at least one byte
and no more than fit; where nothing fits, the writer fails.  The result says whether all bytes were
taken. -/
inductive Writes : Writer → List UInt8 → Writer × Bool → Prop where
  | done (w : Writer) : Writes w [] (w, true)
  | short {w : Writer} {taken rest : List UInt8} {r : Writer × Bool} (hsome : taken ≠ [])
      (hfits : ∀ n ∈ w.room, taken.length ≤ n) (later : Writes (w.took taken) rest r) :
      Writes w (taken ++ rest) r
  | full {w : Writer} {b : UInt8} {rest : List UInt8} (hroom : w.room = some 0) :
      Writes w (b :: rest) (w, false)

variable {w : Writer}

/-- Bytes that fit are all written. -/
theorem put_of_fits {bytes : List UInt8} (h : ∀ n ∈ w.room, bytes.length ≤ n) :
    w.put bytes = (w.took bytes, true) := by
  obtain ⟨written, room⟩ := w
  cases room with
  | none => rfl
  | some n =>
      have hn : bytes.length ≤ n := h n rfl
      simp [put, took, List.take_of_length_le hn, hn]

/-- Of bytes that do not fit the first ones are written, up to where the room ends. -/
theorem put_of_not_fits {bytes : List UInt8} {n : Nat} (hroom : w.room = some n)
    (h : n < bytes.length) : w.put bytes = (⟨w.written ++ bytes.take n, some 0⟩, false) := by
  obtain ⟨written, room⟩ := w
  cases hroom
  simp [put, Nat.sub_eq_zero_of_le (Nat.le_of_lt h), Nat.not_le.mpr h]

theorem put_nil (w : Writer) : w.put [] = (w, true) := by
  have hfits : ∀ n ∈ w.room, ([] : List UInt8).length ≤ n := fun n _ => Nat.zero_le n
  rw [put_of_fits hfits]
  obtain ⟨written, room⟩ := w
  cases room <;> simp [took]

/-- Bytes that fit may be written by a write of their own. -/
theorem put_took {taken : List UInt8} (hfits : ∀ n ∈ w.room, taken.length ≤ n)
    (rest : List UInt8) : (w.took taken).put rest = w.put (taken ++ rest) := by
  obtain ⟨written, room⟩ := w
  cases room with
  | none => simp [put, took]
  | some n =>
      have hn : taken.length ≤ n := hfits n rfl
      have hroom : n - taken.length - rest.length = n - (taken.length + rest.length) := by omega
      have hall : rest.length ≤ n - taken.length ↔ taken.length + rest.length ≤ n := by omega
      simp only [put, took, Option.map_some, List.length_append, List.append_assoc,
        List.take_append, List.take_of_length_le hn, hroom, hall]

/-- Where nothing fits, nothing is written. -/
theorem put_full (hroom : w.room = some 0) (b : UInt8) (rest : List UInt8) :
    w.put (b :: rest) = (w, false) := by
  have hmore : 0 < (b :: rest).length := Nat.succ_pos _
  rw [put_of_not_fits hroom hmore, List.take_zero, List.append_nil, ← hroom]

/-- However few bytes each write takes, all of them come to the same as one. -/
theorem writes_iff {bytes : List UInt8} {r : Writer × Bool} :
    w.Writes bytes r ↔ w.put bytes = r := by
  constructor
  · intro h
    induction h with
    | done w => exact put_nil w
    | short _ hfits _ ih => rw [← put_took hfits, ih]
    | full hroom => exact put_full hroom _ _
  · rintro rfl
    -- the first write takes what fits
    obtain ⟨taken, rest, rfl, hfits, hrest⟩ : ∃ taken rest, bytes = taken ++ rest ∧
        (∀ n ∈ w.room, taken.length ≤ n) ∧ (rest ≠ [] → w.room = some taken.length) := by
      cases hroom : w.room with
      | none => exact ⟨bytes, [], (List.append_nil _).symm, nofun, fun h => absurd rfl h⟩
      | some n =>
          refine ⟨bytes.take n, bytes.drop n, (List.take_append_drop n bytes).symm, ?_, ?_⟩
          · rintro m ⟨⟩
            exact List.length_take_le n bytes
          · intro hmore
            have hlong : n < bytes.length := by simpa using hmore
            rw [List.length_take, Nat.min_eq_left (Nat.le_of_lt hlong)]
    rw [← put_took hfits]
    have hlater : (w.took taken).Writes rest ((w.took taken).put rest) := by
      cases rest with
      | nil =>
          rw [put_nil]
          exact .done _
      | cons b rest =>
          have hfull : (w.took taken).room = some 0 := by
            simp [took, hrest (List.cons_ne_nil b rest)]
          rw [put_full hfull]
          exact .full hfull
    by_cases hsome : taken = []
    · subst hsome
      have hsame : w.took [] = w := by
        obtain ⟨written, room⟩ := w
        cases room <;> simp [took]
      rwa [hsame] at hlater ⊢
    · exact .short hsome hfits hlater

/-! ## Pieces -/

/-- Texts are handed to a writer one after the other, up to the first failure. -/
inductive WritesAll : Writer → List String → Writer × Bool → Prop where
  | nil (w : Writer) : WritesAll w [] (w, true)
  | next {w u : Writer} {piece : String} {rest : List String} {r : Writer × Bool}
      (h : w.Writes (encode piece) (u, true)) (later : WritesAll u rest r) :
      WritesAll w (piece :: rest) r
  | failed {w u : Writer} {piece : String} {rest : List String}
      (h : w.Writes (encode piece) (u, false)) : WritesAll w (piece :: rest) (u, false)

theorem putAll_cons_of_true {u : Writer} {piece : String} (h : w.put (encode piece) = (u, true))
    (rest : List String) : w.putAll (piece :: rest) = u.putAll rest := by
  rw [putAll, h]

theorem putAll_cons_of_false {u : Writer} {piece : String} (h : w.put (encode piece) = (u, false))
    (rest : List String) : w.putAll (piece :: rest) = (u, false) := by
  rw [putAll, h]

theorem writesAll_iff {pieces : List String} {r : Writer × Bool} :
    w.WritesAll pieces r ↔ w.putAll pieces = r := by
  constructor
  · intro h
    induction h with
    | nil w => rfl
    | next h _ ih => rw [putAll_cons_of_true (writes_iff.mp h), ih]
    | failed h => exact putAll_cons_of_false (writes_iff.mp h) _
  · rintro rfl
    induction pieces generalizing w with
    | nil => exact .nil w
    | cons piece rest ih =>
        cases hput : w.put (encode piece) with
        | mk u ok =>
            cases ok with
            | true =>
                rw [putAll_cons_of_true hput]
                exact .next (writes_iff.mpr hput) ih
            | false =>
                rw [putAll_cons_of_false hput]
                exact .failed (writes_iff.mpr hput)

/-- Pieces come to the same as what they make together. -/
theorem putAll_eq_put (w : Writer) (pieces : List String) :
    w.putAll pieces = w.put (pieces.flatMap encode) := by
  induction pieces generalizing w with
  | nil => exact (put_nil w).symm
  | cons piece rest ih =>
      rw [List.flatMap_cons]
      by_cases hfits : ∀ n ∈ w.room, (encode piece).length ≤ n
      · rw [putAll_cons_of_true (put_of_fits hfits), ih, put_took hfits]
      · obtain ⟨n, hroom, hn⟩ : ∃ n, w.room = some n ∧ n < (encode piece).length := by
          simpa using hfits
        have hmore : n < (encode piece ++ rest.flatMap encode).length := by
          rw [List.length_append]
          omega
        rw [putAll_cons_of_false (put_of_not_fits hroom hn), put_of_not_fits hroom hmore,
          List.take_append_of_le_length (Nat.le_of_lt hn)]

end Writer

namespace Terminal

/-! ## Lines -/

/-- The line of a text. -/
def line (label text : String) : String :=
  if label = "" then text ++ "\n" else label ++ " " ++ text ++ "\n"

/-- The lines of texts, one behind the other. -/
def output (label : String) : List String → String
  | [] => ""
  | text :: rest => line label text ++ output label rest

/-- The number of bytes of the lines of texts. -/
def size (label : String) (texts : List String) : Nat := (encode (output label texts)).length

theorem pieces_eq_line (label text : String) :
    (pieces label text).flatMap encode = encode (line label text) := by
  unfold pieces line
  split <;> simp [encode_append]

/-- A line is never empty. -/
theorem length_line_pos (label text : String) : 0 < (encode (line label text)).length := by
  have hbreak : (encode "\n").length = 1 := rfl
  unfold line
  split <;> rw [encode_append, List.length_append, hbreak] <;> omega

theorem size_cons (label text : String) (rest : List String) :
    size label (text :: rest) = (encode (line label text)).length + size label rest := by
  rw [size, output, encode_append, List.length_append, size]

theorem size_append (label : String) (first later : List String) :
    size label (first ++ later) = size label first + size label later := by
  induction first with
  | nil => exact (Nat.zero_add _).symm
  | cons text rest ih => rw [List.cons_append, size_cons, size_cons, ih, Nat.add_assoc]

theorem size_mono (label : String) {first texts : List String} (h : first <+: texts) :
    size label first ≤ size label texts := by
  obtain ⟨later, rfl⟩ := h
  rw [size_append]
  exact Nat.le_add_right _ _

theorem size_take_pos (label : String) {texts : List String} {i : Nat} (h : i < texts.length) :
    0 < size label (texts.take (i + 1)) := by
  cases texts with
  | nil => exact absurd h (Nat.not_lt_zero i)
  | cons text rest =>
      rw [List.take_succ_cons, size_cons]
      exact Nat.lt_of_lt_of_le (length_line_pos label text) (Nat.le_add_right _ _)

/-- What there is of each line in a writer with room for so many bytes. -/
def shares (label : String) (room : Nat) (texts : List String) : List (List UInt8) :=
  texts.mapIdx fun i text =>
    (encode (line label text)).take (room - size label (texts.take i))

/-- What is logged for each text by a sink with room for so many bytes. -/
def verdicts (label : String) (room : Nat) (texts : List String) : List (List Log.Line) :=
  (List.range texts.length).map fun i =>
    if size label (texts.take (i + 1)) ≤ room then [] else [warning]

theorem shares_cons (label : String) (room : Nat) (text : String) (rest : List String) :
    shares label room (text :: rest) =
      (encode (line label text)).take room ::
        shares label (room - (encode (line label text)).length) rest := by
  have hnone : size label [] = 0 := rfl
  unfold shares
  rw [List.mapIdx_cons, List.take_zero, hnone, Nat.sub_zero]
  congr 2
  funext i later
  rw [List.take_succ_cons, size_cons, Nat.sub_add_eq]

theorem verdicts_cons (label : String) (room : Nat) (text : String) (rest : List String) :
    verdicts label room (text :: rest) =
      (if (encode (line label text)).length ≤ room then [] else [warning]) ::
        verdicts label (room - (encode (line label text)).length) rest := by
  have hnone : size label [] = 0 := rfl
  unfold verdicts
  rw [List.length_cons, List.range_succ_eq_map, List.map_cons, List.take_succ_cons, List.take_zero,
    size_cons, hnone, Nat.add_zero, List.map_map]
  congr 1
  refine List.map_congr_left fun i hi => ?_
  -- where the first line does not fit, no room is left for the others
  have hpos := size_take_pos label (List.mem_range.mp hi)
  have hfits : size label (text :: rest.take (i + 1)) ≤ room ↔
      size label (rest.take (i + 1)) ≤ room - (encode (line label text)).length := by
    rw [size_cons]
    omega
  simp only [Function.comp_apply, List.take_succ_cons, hfits]

/-- The front of all lines is made of what there is of each of them. -/
theorem take_output (label : String) (room : Nat) (texts : List String) :
    (encode (output label texts)).take room = (shares label room texts).flatten := by
  induction texts generalizing room with
  | nil => rw [output, encode_empty, List.take_nil]; rfl
  | cons text rest ih =>
      rw [shares_cons, List.flatten_cons, ← ih, output, encode_append, List.take_append]

/-! ## Notifications -/

/-- Texts are handed to a sink one after the other, each line in pieces and each piece by short
writes.  The last part of the result is what is logged for each of them. -/
inductive Notifies : Terminal → List String → Terminal × List (List Log.Line) → Prop where
  | nil (t : Terminal) : Notifies t [] (t, [])
  | cons {t u : Terminal} {w : Writer} {ok : Bool} {text : String} {rest : List String}
      {logged : List (List Log.Line)} (h : t.writer.WritesAll (pieces t.label text) (w, ok))
      (later : Notifies { t with writer := w } rest (u, logged)) :
      Notifies t (text :: rest) (u, (if ok then [] else [warning]) :: logged)

/-- Writes the lines of texts one after the other; returns what is logged for each of them. -/
def notifyEach (t : Terminal) : List String → Terminal × List (List Log.Line)
  | [] => (t, [])
  | text :: rest =>
    let (t, logged) := t.notify text
    let (t, later) := t.notifyEach rest
    (t, logged :: later)

theorem notifyEach_cons (t : Terminal) (text : String) (rest : List String) :
    t.notifyEach (text :: rest) =
      (((t.notify text).1.notifyEach rest).1,
        (t.notify text).2 :: ((t.notify text).1.notifyEach rest).2) := rfl

theorem notifyAll_cons (t : Terminal) (text : String) (rest : List String) :
    t.notifyAll (text :: rest) =
      (((t.notify text).1.notifyAll rest).1,
        (t.notify text).2 ++ ((t.notify text).1.notifyAll rest).2) := rfl

theorem notifyAll_eq (t : Terminal) (texts : List String) :
    t.notifyAll texts = ((t.notifyEach texts).1, (t.notifyEach texts).2.flatten) := by
  induction texts generalizing t with
  | nil => rfl
  | cons text rest ih => rw [notifyAll_cons, ih, notifyEach_cons, List.flatten_cons]

theorem notify_of_putAll {t : Terminal} {text : String} {w : Writer} {ok : Bool}
    (h : t.writer.putAll (pieces t.label text) = (w, ok)) :
    t.notify text = ({ t with writer := w }, if ok then [] else [warning]) := by
  rw [notify, h]
  cases ok <;> rfl

/-- However few bytes each write takes, the notifications come to the same. -/
theorem notifies_iff {t : Terminal} {texts : List String} {r : Terminal × List (List Log.Line)} :
    t.Notifies texts r ↔ t.notifyEach texts = r := by
  constructor
  · intro h
    induction h with
    | nil t => rfl
    | cons h _ ih => rw [notifyEach_cons, notify_of_putAll (Writer.writesAll_iff.mp h), ih]
  · rintro rfl
    induction texts generalizing t with
    | nil => exact .nil t
    | cons text rest ih =>
        cases hput : t.writer.putAll (pieces t.label text) with
        | mk w ok =>
            rw [notifyEach_cons, notify_of_putAll hput]
            exact .cons (Writer.writesAll_iff.mpr hput) ih

/-- The pieces of a line come to the same as one write of the line. -/
theorem notify_eq_put (t : Terminal) (text : String) :
    t.notify text =
      ({ t with writer := (t.writer.put (encode (line t.label text))).1 },
        if (t.writer.put (encode (line t.label text))).2 then [] else [warning]) := by
  refine notify_of_putAll ?_
  rw [Writer.putAll_eq_put, pieces_eq_line]

/-- A line in a writer with limited room. -/
theorem notify_limited {t : Terminal} {room : Nat} (h : t.writer.room = some room)
    (text : String) :
    t.notify text =
      (⟨t.label, t.writer.written ++ (encode (line t.label text)).take room,
          some (room - (encode (line t.label text)).length)⟩,
        if (encode (line t.label text)).length ≤ room then [] else [warning]) := by
  obtain ⟨label, written, _⟩ := t
  cases h
  simp [notify_eq_put, Writer.put]

/-- A line in a writer that never fails. -/
theorem notify_unlimited {t : Terminal} (h : t.writer.room = none) (text : String) :
    t.notify text =
      (⟨t.label, t.writer.written ++ encode (line t.label text), none⟩, []) := by
  obtain ⟨label, written, _⟩ := t
  cases h
  rw [notify_eq_put]
  rfl

/-- A sink with limited room writes the front of all lines, as much of it as fits, and logs exactly
the lines that do not fit. -/
theorem notifyEach_limited {t : Terminal} {room : Nat} (h : t.writer.room = some room)
    (texts : List String) :
    t.notifyEach texts =
      (⟨t.label, t.writer.written ++ (encode (output t.label texts)).take room,
          some (room - size t.label texts)⟩,
        verdicts t.label room texts) := by
  induction texts generalizing t room with
  | nil =>
      obtain ⟨label, written, _⟩ := t
      cases h
      simp [notifyEach, output, size, verdicts, encode_empty]
  | cons text rest ih =>
      rw [notifyEach_cons, notify_limited h, ih rfl, verdicts_cons, size_cons, output,
        encode_append, List.take_append, List.append_assoc, Nat.sub_add_eq]

/-- For every label, all texts and every room: the texts can be handed to a sink over a new writer
with this room, and however few bytes each write takes, the writer then holds the first bytes of the
lines, as many as there is room for; in this way there is of each line what room the lines before it
have left; exactly one warning is logged for each line that does not fit completely and nothing for
the others; and behind a line with a warning every line has one. -/
theorem cut_at_capacity (label : String) (texts : List String) (room : Nat) :
    (∃ r, Notifies ⟨label, .new (some room)⟩ texts r) ∧
    ∀ t logged, Notifies ⟨label, .new (some room)⟩ texts (t, logged) →
      notifyAll ⟨label, .new (some room)⟩ texts = (t, logged.flatten) ∧
      t.writer.written = (encode (output label texts)).take room ∧
      t.writer.written = (texts.mapIdx fun i text =>
        (encode (line label text)).take (room - size label (texts.take i))).flatten ∧
      logged.length = texts.length ∧
      (∀ i < texts.length, logged[i]? =
        some (if size label (texts.take (i + 1)) ≤ room then [] else [warning])) ∧
      ∀ i j, i ≤ j → j < texts.length → logged[i]? = some [warning] →
        logged[j]? = some [warning] := by
  refine ⟨⟨_, notifies_iff.mpr rfl⟩, fun t logged h => ?_⟩
  have heach := notifies_iff.mp h
  have hverdict : ∀ i < texts.length, logged[i]? =
      some (if size label (texts.take (i + 1)) ≤ room then [] else [warning]) := by
    intro i hi
    have hlogged : verdicts label room texts = logged := by
      rw [notifyEach_limited rfl] at heach
      exact congrArg Prod.snd heach
    simp [← hlogged, verdicts, hi]
  have hwritten : t.writer.written = (encode (output label texts)).take room := by
    rw [notifyEach_limited rfl] at heach
    exact (congrArg (fun r => r.1.writer.written) heach).symm
  refine ⟨?_, hwritten, hwritten.trans (take_output label room texts), ?_, hverdict, ?_⟩
  · rw [notifyAll_eq, heach]
  · rw [notifyEach_limited rfl] at heach
    have hlength : (verdicts label room texts).length = logged.length :=
      congrArg (fun r => r.2.length) heach
    rw [← hlength, verdicts, List.length_map, List.length_range]
  · intro i j hij hj hi
    rw [hverdict i (by omega)] at hi
    rw [hverdict j hj]
    have hmore : ¬ size label (texts.take (i + 1)) ≤ room := by
      intro hfits
      rw [if_pos hfits] at hi
      cases hi
    have hle : size label (texts.take (i + 1)) ≤ size label (texts.take (j + 1)) :=
      size_mono label (List.take_prefix_take_left (Nat.succ_le_succ hij))
    rw [if_neg (by omega)]

/-- The room ends inside a character of the second line. -/
theorem cut_at_capacity_within_character :
    ∃ t logged, Notifies ⟨"!", .new (some 8)⟩ ["ab", "é", ""] (t, logged) ∧
      t.writer.written = (encode "! ab\n! é\n! \n").take 8 ∧ logged[0]? = some [] ∧
      logged[1]? = some [warning] ∧ logged[2]? = some [warning] := by
  obtain ⟨⟨⟨t, logged⟩, h⟩, hall⟩ := cut_at_capacity "!" ["ab", "é", ""] 8
  obtain ⟨_, hwritten, _, _, hverdict, hlater⟩ := hall t logged h
  have hfirst : logged[0]? = some [] := (hverdict 0 (by decide)).trans (by decide +kernel)
  have hsecond : logged[1]? = some [warning] := (hverdict 1 (by decide)).trans (by decide +kernel)
  exact ⟨t, logged, h, hwritten.trans (by decide +kernel), hfirst, hsecond,
    hlater 1 2 (by decide) (by decide) hsecond⟩

example : (notifyAll ⟨"!", .new (some 8)⟩ ["ab", "é", ""]).1.writer.text = "! ab\n! \ufffd" := by
  decide +kernel

end Terminal

end AlarmMonitor.Sink
