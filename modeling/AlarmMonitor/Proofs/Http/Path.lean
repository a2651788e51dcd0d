import AlarmMonitor.Http.Client
import AlarmMonitor.Proofs.Text.Split

/-!
# Paths that are continued

A path is followed segment by segment, so what stands behind a slash is followed from the place to
which the path before it leads.

* `enter`, `place`: where a path leads as a directory;
* `readPath_append`: the path of a place and what stands behind it;
* `exists_pathText_readPath`: the path of a place without anything behind it;
* `trimEnd_pathText_eq_iff`: paths that do not end in a slash.
-/

set_option autoImplicit false

namespace AlarmMonitor.Http

open Text (splitBy splitBy_ne_nil splitBy_append splitBy_append_of_neg mem_of_mem_splitBy flatMap_splitBy
  of_mem_takeWhile)

namespace Url

/-! ## Following segments -/

/-- Does the segment stand for another place? -/
def isDots (segment : List Char) : Bool := isAbove segment || isHere segment

/-- The place to which a segment leads as a directory. -/
def enter (place : List (List Char)) (segment : List Char) : List (List Char) :=
  if isAbove segment then above place
  else if isHere segment then place
  else segment :: place

/-- The place at which the path ends with this segment: a segment that stands for another place
leaves an empty one there. -/
def arrive (place : List (List Char)) (segment : List Char) : List (List Char) :=
  if isDots segment then [] :: enter place segment else enter place segment

theorem follow_cons (place : List (List Char)) (segment : List Char) {rest : List (List Char)}
    (h : rest ≠ []) : follow place (segment :: rest) = follow (enter place segment) rest := by
  cases rest with
  | nil => exact absurd rfl h
  | cons next rest =>
      rw [follow.eq_3 _ _ _ h, enter]
      by_cases ha : isAbove segment = true
      · simp [ha]
      · by_cases hh : isHere segment = true <;> simp [ha, hh]

theorem follow_append (place : List (List Char)) (front : List (List Char))
    {rest : List (List Char)} (h : rest ≠ []) :
    follow place (front ++ rest) = follow (front.foldl enter place) rest := by
  induction front generalizing place with
  | nil => rfl
  | cons segment front ih =>
      rw [List.cons_append, follow_cons _ _ (by simp [h]), ih, List.foldl_cons]

theorem follow_singleton (place : List (List Char)) (last : List Char) :
    follow place [last] = arrive place last := by
  simp only [follow, arrive, enter, isDots, Bool.or_eq_true]
  by_cases ha : isAbove last = true
  · simp [ha]
  · by_cases hh : isHere last = true <;> simp [ha, hh]

theorem enter_of_not_isDots {segment : List Char} (h : isDots segment = false)
    (place : List (List Char)) : enter place segment = segment :: place := by
  obtain ⟨ha, hh⟩ := Bool.or_eq_false_iff.mp h
  simp [enter, ha, hh]

/-- Segments that stand for themselves are where the path goes on. -/
theorem follow_of_not_isDots {place rest : List (List Char)}
    (h : ∀ segment ∈ rest, isDots segment = false) :
    follow place rest = rest.reverse ++ place := by
  induction rest generalizing place with
  | nil => rfl
  | cons segment rest ih =>
      have hsegment := h segment (by simp)
      cases rest with
      | nil => simp [follow_singleton, arrive, hsegment, enter_of_not_isDots hsegment]
      | cons next rest =>
          rw [follow_cons _ _ (by simp), enter_of_not_isDots hsegment,
            ih fun s hs => h s (List.mem_cons_of_mem _ hs)]
          simp

/-! ## Paths -/

/-- The segments of a text as they stand in a path. -/
def segments (cs : List Char) : List (List Char) :=
  (splitBy isSlash cs).map (Percent.encode Percent.inPath)

/-- The place to which a path leads as a directory. -/
def place : List Char → List (List Char)
  | [] => []
  | _ :: rest => (segments rest).foldl enter []

/-- Does the text begin a path: is it empty, or does it begin with a slash? -/
def Opens (cs : List Char) : Prop := ∀ c ∈ cs.head?, isSlash c = true

/-- A character of a simple path: an ASCII letter, a digit, one of two signs, or a slash. -/
def isSimple (c : Char) : Bool := c.isAlphanum || c == '_' || c == '-' || c == '/'

theorem readPath_cons {c : Char} (hc : isSlash c = true) (cs : List Char) :
    readPath (c :: cs) = (follow [] (segments cs)).reverse := by
  simp [readPath, segments, hc]

theorem toNat_lt_of_isSimple {c : Char} (h : isSimple c = true) : c.toNat < 128 := by
  delta isSimple Char.isAlphanum Char.isAlpha Char.isUpper Char.isLower Char.isDigit at h
  simp only [Bool.or_eq_true, Bool.and_eq_true, decide_eq_true_eq, beq_iff_eq,
    UInt32.le_iff_toNat_le] at h
  have hval : c.val.toNat = c.toNat := rfl
  have hZ : 'Z'.val.toNat = 90 := rfl
  have hz : 'z'.val.toNat = 122 := rfl
  have h9 : '9'.val.toNat = 57 := rfl
  rcases h with (((h | h) | rfl) | rfl) | rfl
  · omega
  · omega
  all_goals decide

/-- What holds of the simple characters below 128 holds of all. -/
theorem of_isSimple {motive : Char → Prop}
    (h : ∀ n < 128, isSimple (Char.ofNat n) = true → motive (Char.ofNat n)) {c : Char}
    (hc : isSimple c = true) : motive c := by
  have hsimple := h c.toNat (toNat_lt_of_isSimple hc)
  rw [Char.ofNat_toNat] at hsimple
  exact hsimple hc

theorem isSlash_of_simple {c : Char} (h : isSimple c = true) : isSlash c = true → c = '/' :=
  of_isSimple (motive := fun c => isSlash c = true → c = '/') (by decide) h

theorem inPath_of_simple {c : Char} (h : isSimple c = true) : Percent.inPath c = false :=
  of_isSimple (motive := fun c => Percent.inPath c = false) (by decide) h

theorem endsPath_of_simple {c : Char} (h : isSimple c = true) : endsPath c = false :=
  of_isSimple (motive := fun c => endsPath c = false) (by decide) h

theorem toLower_of_simple {c : Char} (h : isSimple c = true) : c.toLower ≠ '.' ∧ c.toLower ≠ '%' :=
  of_isSimple (motive := fun c => c.toLower ≠ '.' ∧ c.toLower ≠ '%') (by decide) h

/-- The ways to write a segment that stands for another place, in small letters. -/
def dots : List (List Char) :=
  [".".toList, "%2e".toList, "..".toList, ".%2e".toList, "%2e.".toList, "%2e%2e".toList]

theorem mem_dots_of_isDots {segment : List Char} (h : isDots segment = true) :
    segment.map Char.toLower ∈ dots := by
  simp only [isDots, isAbove, isHere, Bool.or_eq_true, List.contains_iff_mem] at h
  simp only [dots, List.mem_cons] at h ⊢
  grind

/-- A segment that stands for another place begins with a dot, written or encoded. -/
theorem head_of_isDots {segment : List Char} (h : isDots segment = true) :
    ∃ c rest, segment = c :: rest ∧ (c.toLower = '.' ∨ c.toLower = '%') := by
  have hhead : ∀ s ∈ dots, s.head? = some '.' ∨ s.head? = some '%' := by decide
  cases segment with
  | nil => simpa using hhead _ (mem_dots_of_isDots h)
  | cons c rest =>
      refine ⟨c, rest, rfl, ?_⟩
      simpa using hhead _ (mem_dots_of_isDots h)

theorem isDots_of_simple {segment : List Char} (h : ∀ c ∈ segment, isSimple c = true) :
    isDots segment = false := by
  refine Bool.eq_false_iff.mpr fun hdots => ?_
  obtain ⟨c, rest, rfl, hc⟩ := head_of_isDots hdots
  obtain ⟨hdot, hpercent⟩ := toLower_of_simple (h c (by simp))
  rcases hc with hc | hc
  · exact hdot hc
  · exact hpercent hc

section Continued

variable {cs e : List Char}

/-- A simple text is the segments of its path. -/
theorem segments_of_simple (he : ∀ c ∈ e, isSimple c = true) :
    segments e = splitBy isSlash e ∧
      ∀ segment ∈ splitBy isSlash e, isDots segment = false := by
  have hpart : ∀ segment ∈ splitBy isSlash e, ∀ c ∈ segment, isSimple c = true :=
    fun segment hs c hc => he c (mem_of_mem_splitBy hs c hc).1
  constructor
  · rw [segments]
    refine (List.map_congr_left fun segment hs => ?_).trans (List.map_id _)
    exact Percent.encode_eq_self fun c hc => inPath_of_simple (hpart segment hs c hc)
  · exact fun segment hs => isDots_of_simple (hpart segment hs)

/-- What stands behind a slash is reached from the place before it. -/
theorem readPath_append (hcs : Opens cs) (he : ∀ c ∈ e, isSimple c = true) :
    readPath (cs ++ '/' :: e) = (place cs).reverse ++ splitBy isSlash e := by
  obtain ⟨hsegments, hdots⟩ := segments_of_simple he
  cases cs with
  | nil =>
      rw [List.nil_append, readPath_cons rfl, hsegments, follow_of_not_isDots hdots]
      simp [place]
  | cons c rest =>
      have hslash : isSlash '/' = true := rfl
      rw [List.cons_append, readPath_cons (hcs c (by simp)), segments, splitBy_append hslash,
        List.map_append, follow_append _ _ (by simp [splitBy_ne_nil]), ← segments, ← segments,
        hsegments, follow_of_not_isDots hdots]
      simp [place]

/-- The text of such a path is that of the place, a slash, and what stands behind it. -/
theorem pathText_readPath_append (hcs : Opens cs) (he : ∀ c ∈ e, isSimple c = true) :
    pathText (readPath (cs ++ '/' :: e)) = pathText (place cs).reverse ++ '/' :: e := by
  rw [readPath_append hcs he, pathText, List.flatMap_append, pathText,
    flatMap_splitBy fun c hc => isSlash_of_simple (he c hc)]

/-- The path of a text with slashes behind it leads to the same place, and differs from it in slashes
at the end. -/
theorem exists_pathText_readPath (hcs : Opens cs) (n : Nat) :
    ∃ k, pathText (readPath (cs ++ List.replicate n '/')) =
      pathText (place cs).reverse ++ List.replicate k '/' := by
  cases n with
  | succ n =>
      refine ⟨n + 1, ?_⟩
      have hslashes : ∀ c ∈ List.replicate n '/', isSimple c = true := by
        intro c hc
        rw [(List.mem_replicate.mp hc).2]
        decide
      rw [List.replicate_succ, pathText_readPath_append hcs hslashes]
  | zero =>
      cases cs with
      | nil => exact ⟨1, rfl⟩
      | cons c rest =>
          obtain ⟨front, last, hlast⟩ : ∃ front last, segments rest = front ++ [last] :=
            ⟨_, _, (List.dropLast_concat_getLast (by simp [segments, splitBy_ne_nil])).symm⟩
          have hplace : place (c :: rest) = enter (front.foldl enter []) last := by
            simp [place, hlast]
          rw [List.replicate_zero, List.append_nil, readPath_cons (hcs c (by simp)), hlast,
            follow_append _ _ (by simp), follow_singleton, arrive, hplace]
          cases isDots last with
          | false => exact ⟨0, by simp⟩
          | true => exact ⟨1, by simp [pathText]⟩

end Continued

/-! ## Slashes in a path -/

theorem slash_notMem_encodeByte (b : UInt8) : '/' ∉ Percent.encodeByte b := by
  have hdigit : ∀ n < 16, Percent.digit n ≠ '/' := by decide
  have hb : b.toNat < 256 := b.toNat_lt
  have hhigh := hdigit (b.toNat / 16) (by omega)
  have hlow := hdigit (b.toNat % 16) (by omega)
  simp [Percent.encodeByte, hhigh.symm, hlow.symm]

theorem slash_notMem_encode {escaped : Char → Bool} {cs : List Char} (h : '/' ∉ cs) :
    '/' ∉ Percent.encode escaped cs := by
  intro hmem
  obtain ⟨c, hc, hslash⟩ := List.mem_flatMap.mp hmem
  rw [Percent.encodeChar] at hslash
  split at hslash
  · obtain ⟨b, -, hb⟩ := List.mem_flatMap.mp hslash
    exact slash_notMem_encodeByte b hb
  · obtain rfl := List.mem_singleton.mp hslash
    exact h hc

theorem mem_of_mem_enter {place : List (List Char)} {segment s : List Char}
    (h : s ∈ enter place segment) : s = segment ∨ s ∈ place := by
  rw [enter] at h
  split at h
  · refine .inr ?_
    cases place with
    | nil => exact h
    | cons first place =>
        rw [above] at h
        split at h
        · exact h
        · exact List.mem_cons_of_mem _ h
  · split at h
    · exact .inr h
    · exact List.mem_cons.mp h

theorem mem_of_mem_foldl_enter {rest place : List (List Char)} {s : List Char}
    (h : s ∈ rest.foldl enter place) : s ∈ rest ∨ s ∈ place := by
  induction rest generalizing place with
  | nil => exact .inr h
  | cons segment rest ih =>
      rcases ih h with h | h
      · exact .inl (List.mem_cons_of_mem _ h)
      · rcases mem_of_mem_enter h with rfl | h
        · exact .inl List.mem_cons_self
        · exact .inr h

theorem slash_notMem_of_mem_place {cs s : List Char} (h : s ∈ place cs) : '/' ∉ s := by
  cases cs with
  | nil => simp [place] at h
  | cons c rest =>
      rcases mem_of_mem_foldl_enter h with h | h
      · obtain ⟨part, hpart, rfl⟩ := List.mem_map.mp h
        refine slash_notMem_encode fun hslash => ?_
        have hneg := (mem_of_mem_splitBy hpart '/' hslash).2
        simp [isSlash] at hneg
      · simp at h

end Url

namespace Client

/-! ## Slashes at the end -/

theorem exists_eq_trimEnd_append (cs : List Char) :
    ∃ n, cs = trimEnd cs ++ List.replicate n '/' := by
  refine ⟨(cs.reverse.takeWhile (· == '/')).length, ?_⟩
  have hslashes : cs.reverse.takeWhile (· == '/') =
      List.replicate (cs.reverse.takeWhile (· == '/')).length '/' := by
    refine List.eq_replicate_iff.mpr ⟨rfl, fun c hc => ?_⟩
    have hslash := of_mem_takeWhile hc
    exact beq_iff_eq.mp hslash
  rw [trimEnd, ← List.reverse_replicate, ← hslashes, ← List.reverse_append,
    List.takeWhile_append_dropWhile, List.reverse_reverse]

@[simp] theorem trimEnd_append_replicate (cs : List Char) (n : Nat) :
    trimEnd (cs ++ List.replicate n '/') = trimEnd cs := by
  have hslashes : ∀ c ∈ List.replicate n '/', (c == '/') = true := by simp
  rw [trimEnd, List.reverse_append, List.reverse_replicate, List.dropWhile_append_of_pos hslashes,
    ← trimEnd]

theorem trimEnd_eq_self_iff {cs : List Char} : trimEnd cs = cs ↔ cs.getLast? ≠ some '/' := by
  constructor
  · rintro htrim hlast
    obtain ⟨front, rfl⟩ := List.getLast?_eq_some_iff.mp hlast
    have hlength := congrArg List.length htrim
    rw [show ['/'] = List.replicate 1 '/' from rfl, trimEnd_append_replicate] at hlength
    obtain ⟨n, hn⟩ := exists_eq_trimEnd_append front
    have hfront := congrArg List.length hn
    simp at hlength hfront
    omega
  · intro hlast
    cases hcs : cs.reverse with
    | nil => simp [List.reverse_eq_nil_iff.mp hcs, trimEnd]
    | cons c rest =>
        have hc : c ≠ '/' := by
          rintro rfl
          exact hlast (by rw [← List.head?_reverse, hcs]; rfl)
        rw [trimEnd, hcs, List.dropWhile_cons_of_neg (by simpa using hc), ← hcs,
          List.reverse_reverse]

/-- The path of a place ends in a slash exactly if the last segment of the place is empty. -/
theorem trimEnd_pathText_eq_iff (cs : List Char) :
    trimEnd (Url.pathText (Url.place cs).reverse) = Url.pathText (Url.place cs).reverse ↔
      (Url.place cs).head? ≠ some [] := by
  rw [trimEnd_eq_self_iff]
  cases hplace : Url.place cs with
  | nil => simp [Url.pathText]
  | cons s place =>
      have hs : '/' ∉ s := Url.slash_notMem_of_mem_place (by rw [hplace]; exact List.mem_cons_self)
      have hlast : (Url.pathText (s :: place).reverse).getLast? = some (s.getLast?.getD '/') := by
        simp [Url.pathText, List.getLast?_append, List.getLast?_cons]
      rw [hlast]
      cases hend : s.getLast? with
      | none => simp [List.getLast?_eq_none_iff.mp hend]
      | some c =>
          have hc : c ≠ '/' := fun h => hs (h ▸ List.mem_of_getLast? hend)
          have hne : s ≠ [] := by rintro rfl; simp at hend
          simp [hc, hne]

end Client

end AlarmMonitor.Http
