import AlarmMonitor.Proofs.Http.Path

/-!
# Blanks at the end

A blank or control character counts for nothing at the end of a URL, but for something before what is
put behind it: an authority cannot be read with one at its end, and a path becomes another one.

* `Text.mem_composed`: such characters stay what they are when a name is composed;
* `Domain.ofBytes_blank`: no name holds one;
* `readHostPort_blank`: no authority ends in one;
* `length_pathText_lt_of_blank`: a path with one behind it is longer.
-/

set_option autoImplicit false

namespace AlarmMonitor.Text

/-! ## Bytes -/

/-- Is the next byte of an unfinished character above ASCII? -/
def Decoding.Inner (d : Decoding) : Prop := ∀ p ∈ d.open?, 0x80 ≤ p.low

theorem inner_beginChar (chars : List Char) (b : Nat) : (beginChar chars b).Inner := by
  have hlead : ∀ missing low high point, lead b = some (missing, low, high, point) →
      missing = 0 ∨ 0x80 ≤ low := by
    intro missing low high point h
    simp only [lead] at h
    grind
  intro p hp
  rw [beginChar] at hp
  split at hp
  · cases hp
  · cases hp
  · next missing low high point hmissing h =>
      obtain rfl := Option.some.inj hp
      rcases hlead _ _ _ _ h with rfl | hlow
      · exact (hmissing rfl).elim
      · exact hlow

theorem inner_decodeByte {d : Decoding} (byte : UInt8) : (decodeByte d byte).Inner := by
  rw [decodeByte]
  split
  · exact inner_beginChar _ _
  · split
    · dsimp only
      split
      · intro p hp
        cases hp
      · intro p hp
        obtain rfl := Option.some.inj hp
        exact Nat.le_refl _
    · exact inner_beginChar _ _

theorem inner_foldl_decodeByte (bytes : List UInt8) {d : Decoding} (h : d.Inner) :
    (bytes.foldl decodeByte d).Inner := by
  induction bytes generalizing d with
  | nil => exact h
  | cons byte bytes ih => exact ih (inner_decodeByte byte)

/-- A byte of ASCII at the end is a character at the end. -/
theorem exists_decode_concat (bytes : List UInt8) {byte : UInt8} (h : byte.toNat < 0x80) :
    ∃ front, (decode (bytes ++ [byte])).toList = front ++ [Char.ofNat byte.toNat] := by
  have hinner := inner_foldl_decodeByte bytes (d := ⟨none, []⟩) nofun
  have hlead : lead byte.toNat = some (0, 0, 0, byte.toNat) := if_pos h
  have hbegin (chars : List Char) :
      beginChar chars byte.toNat = ⟨none, Char.ofNat byte.toNat :: chars⟩ := by
    rw [beginChar, hlead]
    rfl
  obtain ⟨chars, hlast⟩ : ∃ chars,
      decodeByte (bytes.foldl decodeByte ⟨none, []⟩) byte =
        ⟨none, Char.ofNat byte.toNat :: chars⟩ := by
    rw [decodeByte]
    split
    · exact ⟨_, hbegin _⟩
    · next p hp =>
        have hlow := hinner p hp
        rw [if_neg (by omega)]
        exact ⟨_, hbegin _⟩
  refine ⟨chars.reverse, ?_⟩
  rw [decode, List.foldl_append, List.foldl_cons, List.foldl_nil, hlast]
  simp

/-! ## Composed forms -/

theorem above_blanks_of_row (n : Nat) (cs : List Char) (hn : 0x20 < (Char.ofNat n).toNat)
    (h : cs.all (0x20 < ·.toNat) = true) :
    0x20 < (Char.ofNat n).toNat ∧ (String.ofList cs).toList.all (0x20 < ·.toNat) = true := by
  rw [String.toList_ofList]
  exact ⟨hn, h⟩

set_option maxRecDepth 4000 in
/-- Every character of the table stands above the blanks. -/
theorem above_blanks_of_mem_compositions :
    ∀ row ∈ compositions, 0x20 < (Char.ofNat row.1).toNat ∧
      row.2.toList.all (0x20 < ·.toNat) = true := by
  simp only [compositions, List.forall_mem_cons]
  repeat refine ⟨above_blanks_of_row _ _ (by decide) (by decide +kernel), ?_⟩
  simp

theorem mem_of_mem_pairsOf {mark : Char} {cs : List Char} {p : Pair} (h : p ∈ pairsOf mark cs) :
    p.base ∈ cs ∧ p.mark = mark ∧ p.composed ∈ cs := by
  induction cs using pairsOf.induct with
  | case1 base composed rest ih =>
      rw [pairsOf] at h
      rcases List.mem_cons.mp h with rfl | h
      · simp
      · obtain ⟨hbase, hmark, hcomposed⟩ := ih h
        simp [hbase, hmark, hcomposed]
  | case2 cs hcs =>
      rw [pairsOf.eq_2 _ _ hcs] at h
      cases h

theorem above_blanks_of_mem_pairs {p : Pair} (h : p ∈ pairs) :
    0x20 < p.base.toNat ∧ 0x20 < p.mark.toNat ∧ 0x20 < p.composed.toNat := by
  obtain ⟨row, hrow, hp⟩ := List.mem_flatMap.mp h
  obtain ⟨hbase, hmark, hcomposed⟩ := mem_of_mem_pairsOf hp
  obtain ⟨hn, hall⟩ := above_blanks_of_mem_compositions row hrow
  have habove : ∀ c ∈ row.2.toList, 0x20 < c.toNat := by simpa using hall
  exact ⟨habove _ hbase, hmark ▸ hn, habove _ hcomposed⟩

section Blank

variable {b : Char}

/-- A blank has no parts. -/
theorem parts_blank (h : b.toNat ≤ 0x20) (depth : Nat) : parts depth b = [b] := by
  cases depth with
  | zero => rfl
  | succ depth =>
      have hsyllable : syllableParts b.toNat = none := by
        have hlt : b.toNat < firstSyllable := by
          rw [firstSyllable]
          omega
        exact if_pos (.inl hlt)
      have hpair : pairs.find? (·.composed = b) = none := by
        refine List.find?_eq_none.mpr fun p hp hcomposed => ?_
        have habove := (above_blanks_of_mem_pairs hp).2.2
        rw [of_decide_eq_true hcomposed] at habove
        omega
      -- The equations of `parts` hold the whole table and are never stated.
      unfold parts
      rw [hsyllable, hpair]

theorem syllable_blank {m n : Nat} (h : m ≤ 0x20 ∨ n ≤ 0x20) : syllable m n = none := by
  rw [syllable, if_neg, if_neg]
  · rw [firstSyllable, noTail]
    omega
  · rw [firstLead, firstVowel]
    omega

/-- Only characters above the blanks are put together. -/
theorem above_blanks_of_composition {c d e : Char} (h : composition c d = some e) :
    0x20 < c.toNat ∧ 0x20 < d.toNat := by
  rw [composition] at h
  cases hsyllable : syllable c.toNat d.toNat with
  | some s =>
      by_cases hblank : c.toNat ≤ 0x20 ∨ d.toNat ≤ 0x20
      · rw [syllable_blank hblank] at hsyllable
        cases hsyllable
      · omega
  | none =>
      rw [hsyllable, Option.none_or] at h
      obtain ⟨p, hp, -⟩ := Option.map_eq_some_iff.mp h
      have hmatch := List.find?_some hp
      obtain ⟨hbase, hmark, -⟩ := above_blanks_of_mem_pairs (List.mem_of_find?_eq_some hp)
      simp only [Bool.and_eq_true, beq_iff_eq] at hmatch
      obtain ⟨rfl, rfl⟩ := hmatch
      exact ⟨hbase, hmark⟩

theorem mem_insertMark {c d : Char} {cs : List Char} : d ∈ insertMark c cs ↔ d = c ∨ d ∈ cs := by
  induction cs with
  | nil => simp [insertMark]
  | cons first rest ih =>
      rw [insertMark]
      split
      · rw [List.mem_cons, ih, List.mem_cons]
        exact or_left_comm
      · exact List.mem_cons

theorem mem_decomposed (h : b.toNat ≤ 0x20) {cs : List Char} (hb : b ∈ cs) :
    b ∈ decomposed cs := by
  have hfold (ds acc : List Char) :
      b ∈ ds.foldl (fun acc c => insertMark c acc) acc ↔ b ∈ ds ∨ b ∈ acc := by
    induction ds generalizing acc with
    | nil => simp
    | cons d ds ih => rw [List.foldl_cons, ih, mem_insertMark, List.mem_cons, or_assoc, or_left_comm]
  have hparts : b ∈ cs.flatMap (parts 4) :=
    List.mem_flatMap.mpr ⟨b, hb, by simp [parts_blank h]⟩
  rw [decomposed, List.mem_reverse, hfold]
  exact .inl hparts

/-- A blank among characters that are put together stays one of them. -/
theorem mem_joinParts (h : b.toNat ≤ 0x20) {base : Char} {between cs : List Char}
    (hb : b = base ∨ b ∈ between ∨ b ∈ cs) : b ∈ joinParts base between cs := by
  induction cs generalizing base between with
  | nil => simpa [joinParts] using hb
  | cons c rest ih =>
      rw [joinParts]
      split
      · next d hd =>
          have hcomposition : composition base c = some d := by
            split at hd
            · exact hd
            · cases hd
          obtain ⟨hbase, hc⟩ := above_blanks_of_composition hcomposition
          have hne : b ≠ base ∧ b ≠ c := by
            constructor <;> (rintro rfl; omega)
          refine ih (.inr ?_)
          simpa [hne] using hb
      · split
        · rcases hb with rfl | hb | hb
          · simp
          · simp [hb]
          · rcases List.mem_cons.mp hb with rfl | hb
            · simp [ih (.inl rfl)]
            · simp [ih (.inr (.inr hb))]
        · refine ih ?_
          rcases hb with hb | hb | hb
          · exact .inl hb
          · exact .inr (.inl (List.mem_cons_of_mem _ hb))
          · rcases List.mem_cons.mp hb with rfl | hb
            · exact .inr (.inl List.mem_cons_self)
            · exact .inr (.inr hb)

/-- A blank stays in a text that is composed. -/
theorem mem_composed (h : b.toNat ≤ 0x20) {cs : List Char} (hb : b ∈ cs) : b ∈ composed cs := by
  have hmem := mem_decomposed h hb
  rw [composed]
  dsimp only
  split
  · exact hmem
  · next c rest hsplit =>
      rw [← List.takeWhile_append_dropWhile (l := decomposed cs)
        (p := fun c => !(combiningClass c == 0)), hsplit] at hmem
      rcases List.mem_append.mp hmem with hmem | hmem
      · exact List.mem_append_left _ hmem
      · refine List.mem_append_right _ (mem_joinParts h ?_)
        simpa using hmem

end Blank

end AlarmMonitor.Text

namespace AlarmMonitor.Http

variable {b : Char}

/-! ## Names -/

theorem Percent.digitValue_blank (h : b.toNat ≤ 0x20) : digitValue b = none := by
  have hval : b.val.toNat = b.toNat := rfl
  have not_le {c : Char} (hc : 0x20 < c.val.toNat) : ¬ c ≤ b := by
    intro hle
    have hnat := UInt32.le_iff_toNat_le.mp hle
    omega
  have h0 : ¬ '0' ≤ b := not_le (by decide)
  have ha : ¬ 'a' ≤ b := not_le (by decide)
  have hA : ¬ 'A' ≤ b := not_le (by decide)
  simp [digitValue, h0, ha, hA]

/-- A blank at the end is a byte at the end. -/
theorem Percent.getLast?_decode (h : b.toNat ≤ 0x20) {cs : List Char} (hb : cs.getLast? = some b) :
    (decode cs).getLast? = some (UInt8.ofNat b.toNat) := by
  have hblank : String.utf8EncodeChar b = [UInt8.ofNat b.toNat] :=
    if_pos (Nat.le_trans h (by decide))
  induction cs using decode.induct with
  | case1 a d cs high low hlow hhigh ih =>
      cases hcs : cs.getLast? with
      | none =>
          obtain rfl := List.getLast?_eq_none_iff.mp hcs
          obtain rfl : d = b := by simpa using hb
          rw [digitValue_blank h] at hlow
          cases hlow
      | some last =>
          obtain rfl : last = b := by simpa [List.getLast?_cons, hcs] using hb
          rw [decode, hhigh, hlow, List.getLast?_cons, ih hcs]
          rfl
  | case2 a d cs hvalues ih =>
      have hlast := ih (by simpa [List.getLast?_cons] using hb)
      rw [decode]
      split
      · next high low hhigh hlow => exact (hvalues high low hhigh hlow).elim
      · rw [List.getLast?_cons, hlast]
        rfl
  | case3 c cs hc ih =>
      rw [decode.eq_2 _ _ hc, List.getLast?_append]
      cases hcs : cs.getLast? with
      | none =>
          obtain rfl := List.getLast?_eq_none_iff.mp hcs
          obtain rfl : c = b := by simpa using hb
          simp [decode, hblank]
      | some last =>
          obtain rfl : last = b := by simpa [List.getLast?_cons, hcs] using hb
          rw [ih hcs]
          rfl
  | case4 => cases hb

namespace Domain

theorem plain_blank (h : b.toNat ≤ 0x20) : plain b = [b] := by
  have hignored : Text.inRanges b.toNat ignoredRanges = false :=
    Text.inRanges_eq_false_of_lt (by omega)
  have hsteps : ∀ step ∈ steps, 0x41 ≤ step.1 := by decide +kernel
  have hstep : stepForm b.toNat = none := by
    rw [stepForm, Option.map_eq_none_iff, List.find?_eq_none]
    rintro ⟨low, high, gap, distance⟩ hmem
    have hlow : 0x41 ≤ low := hsteps _ hmem
    have hlt : ¬ low ≤ b.toNat := by omega
    simp [hlt]
  have hrow : rowForm b.toNat = none := by
    obtain ⟨rest, hforms⟩ : ∃ rest, forms = (0xAA, "a") :: rest := ⟨_, rfl⟩
    have hlt : ¬ 0xAA ≤ b.toNat := by omega
    simp [rowForm, hforms, hlt]
  rw [plain, hignored, hstep, hrow]
  rfl

/-- Bytes that stand for a text with a blank are no name. -/
theorem ofBytes_blank (h : b.toNat ≤ 0x20) {bytes : List UInt8}
    (hb : b ∈ (Text.decode bytes).toList) : ofBytes bytes = none := by
  have hplain : b ∈ (Text.decode bytes).toList.flatMap plain :=
    List.mem_flatMap.mpr ⟨b, hb, by simp [plain_blank h]⟩
  have hcomposed := Text.mem_composed h hplain
  have hunfit : isFit b = false := by
    have hlt : b.toNat < 0x80 := by omega
    simp [isFit, isForbidden, hlt, h]
  have hlabels : labels bytes = none := by
    rw [labels]
    refine if_neg fun hall => ?_
    have hfit := List.all_eq_true.mp hall b hcomposed
    rw [hunfit] at hfit
    cases hfit
  rw [ofBytes, hlabels]
  rfl

end Domain

/-! ## Authorities -/

theorem Address.number?_blank (h : b.toNat ≤ 0x20) {base : Nat} {cs : List Char}
    (hb : cs.getLast? = some b) : number? base cs = none := by
  obtain ⟨front, rfl⟩ := List.getLast?_eq_some_iff.mp hb
  rw [number?, List.foldlM_append, Option.bind_eq_bind, Option.bind_eq_none_iff]
  intro n _
  simp [Percent.digitValue_blank h]

theorem Host.read_blank (h : b.toNat ≤ 0x20) {cs : List Char} (hb : cs.getLast? = some b) :
    ∃ f, Host.read cs = .error f := by
  rw [Host.read]
  split
  · next inside hinside =>
      obtain rfl : inside = none := by
        rw [bracketed?.eq_def] at hinside
        split at hinside
        · next rest =>
            have hne : rest.getLast? ≠ some ']' := by
              intro hlast
              obtain rfl : b = ']' := by simpa [List.getLast?_cons, hlast, eq_comm] using hb
              exact absurd h (by decide)
            rw [if_neg hne] at hinside
            exact (Option.some.inj hinside).symm
        · cases hinside
      exact ⟨_, rfl⟩
  · obtain ⟨front, hfront⟩ := List.getLast?_eq_some_iff.mp (Percent.getLast?_decode h hb)
    have hbyte : (UInt8.ofNat b.toNat).toNat = b.toNat := by
      rw [UInt8.toNat_ofNat']
      omega
    have hascii : (UInt8.ofNat b.toNat).toNat < 0x80 := by omega
    obtain ⟨shown, hshown⟩ := Text.exists_decode_concat front hascii
    rw [hbyte, Char.ofNat_toNat, ← hfront] at hshown
    have hmem : b ∈ (Text.decode (Percent.decode cs)).toList := by simp [hshown]
    rw [readName, Domain.ofBytes_blank h hmem]
    exact ⟨_, rfl⟩

namespace Url

theorem readPort_blank (h : b.toNat ≤ 0x20) {cs : List Char} (hb : cs.getLast? = some b) :
    readPort cs = .error .badPort := by
  have hne : cs.isEmpty = false := by
    cases cs with
    | nil => cases hb
    | cons c cs => rfl
  rw [readPort, hne, Address.number?_blank h hb]
  rfl

theorem getLast?_userSection (hat : b ≠ '@') {cs : List Char} (hb : cs.getLast? = some b) :
    (userSection cs).2.getLast? = some b := by
  rw [userSection]
  cases hparts : Text.aroundLast '@' cs with
  | none => exact hb
  | some parts =>
      obtain ⟨user, place⟩ := parts
      rw [Text.eq_of_aroundLast hparts, List.getLast?_append, List.getLast?_cons] at hb
      cases hplace : place.getLast? with
      | none => exact absurd (by simpa [hplace, eq_comm] using hb) hat
      | some last => simpa [hplace] using hb

/-- The end of an authority is the end of its port or, without one, of its host. -/
theorem getLast?_hostSection (hcolon : b ≠ ':') (inside : Bool) {cs : List Char}
    (hb : cs.getLast? = some b) :
    ((hostSection inside cs).1.getLast? = some b ∧ (hostSection inside cs).2 = none) ∨
      ∃ port, (hostSection inside cs).2 = some port ∧ port.getLast? = some b := by
  induction cs generalizing inside with
  | nil => cases hb
  | cons c cs ih =>
      rw [hostSection]
      cases hcs : cs.getLast? with
      | none =>
          obtain rfl := List.getLast?_eq_none_iff.mp hcs
          obtain rfl : c = b := by simpa using hb
          simp [hostSection, hcolon]
      | some last =>
          obtain rfl : last = b := by simpa [List.getLast?_cons, hcs] using hb
          split
          · exact .inr ⟨cs, rfl, hcs⟩
          · rcases ih (c == '[' || (inside && c != ']')) hcs with ⟨hhost, hport⟩ | hport
            · exact .inl ⟨by simp [List.getLast?_cons, hhost], hport⟩
            · exact .inr hport

/-- An authority with a blank at its end cannot be read. -/
theorem readHostPort_blank (h : b.toNat ≤ 0x20) {cs : List Char} (hb : cs.getLast? = some b) :
    ∃ f, readHostPort (userSection cs).2 = .error f := by
  have hat : b ≠ '@' := by rintro rfl; exact absurd h (by decide)
  have hcolon : b ≠ ':' := by rintro rfl; exact absurd h (by decide)
  have hplace := getLast?_userSection hat hb
  rcases getLast?_hostSection hcolon false hplace with ⟨hhost, -⟩ | ⟨port, hport, hlast⟩
  · obtain ⟨f, hf⟩ := Host.read_blank h hhost
    have hne : (hostSection false (userSection cs).2).1.isEmpty = false := by
      cases hname : (hostSection false (userSection cs).2).1 with
      | nil => simp [hname] at hhost
      | cons c name => rfl
    refine ⟨f, ?_⟩
    simp only [readHostPort, hne, hf]
    rfl
  · have hfault := readPort_blank h hlast
    simp only [readHostPort, hport, Option.getD_some, hfault]
    split
    · exact ⟨_, rfl⟩
    · cases Host.read (hostSection false (userSection cs).2).1 with
      | error f => exact ⟨f, rfl⟩
      | ok host => exact ⟨_, rfl⟩

/-! ## Paths -/

/-- A blank at the end of a segment is written by its byte, so the segment stands for itself. -/
theorem isDots_encode_blank (h : b.toNat ≤ 0x20) (cs : List Char) :
    isDots (Percent.encode Percent.inPath (cs ++ [b])) = false := by
  have hends : ∀ n < 0x21, ∀ segment ∈ dots,
      ¬ (Percent.encodeChar Percent.inPath (Char.ofNat n)).map Char.toLower <:+ segment := by
    decide +kernel
  refine Bool.eq_false_iff.mpr fun hdots => ?_
  have hmem := mem_dots_of_isDots hdots
  refine hends b.toNat (by omega) _ hmem ?_
  rw [Char.ofNat_toNat, Percent.encode, List.flatMap_append, List.map_append]
  simp

theorem length_pathText_cons (s : List Char) (place : List (List Char)) :
    (pathText (s :: place).reverse).length = (pathText place.reverse).length + 1 + s.length := by
  simp [pathText]
  omega

theorem length_pathText_above_le (place : List (List Char)) :
    (pathText (above place).reverse).length ≤ (pathText place.reverse).length := by
  cases place with
  | nil => exact Nat.le_refl _
  | cons s place =>
      rw [above]
      split
      · exact Nat.le_refl _
      · rw [length_pathText_cons]
        omega

theorem length_pathText_arrive_le (place : List (List Char)) (segment : List Char) :
    (pathText (arrive place segment).reverse).length ≤
      (pathText place.reverse).length + 1 + segment.length := by
  have habove := length_pathText_above_le place
  rw [arrive]
  by_cases ha : isAbove segment = true
  · simp [isDots, enter, ha, length_pathText_cons, -List.reverse_cons]
    omega
  · by_cases hh : isHere segment = true
    · simp [isDots, enter, ha, hh, length_pathText_cons, -List.reverse_cons]
    · simp [isDots, enter, ha, hh, length_pathText_cons, -List.reverse_cons]

/-- A path with blanks behind it is longer as the path of a place than without them. -/
theorem length_pathText_lt_of_blank (h : b.toNat ≤ 0x20) {c : Char} (hc : isSlash c = true)
    (rest blanks : List Char) (hblanks : ∀ d ∈ blanks ++ [b], isSlash d = false) :
    (pathText (readPath (c :: rest))).length <
      (pathText (place (c :: rest ++ (blanks ++ [b]))).reverse).length := by
  obtain ⟨front, last, hrest, happend⟩ := Text.splitBy_append_of_neg hblanks rest
  have hdots := isDots_encode_blank h (last ++ blanks)
  have hbefore : segments rest =
      front.map (Percent.encode Percent.inPath) ++ [Percent.encode Percent.inPath last] := by
    simp [segments, hrest]
  have hbehind : segments (rest ++ (blanks ++ [b])) =
      front.map (Percent.encode Percent.inPath) ++
        [Percent.encode Percent.inPath (last ++ blanks ++ [b])] := by
    simp [segments, happend]
  have hlonger : (Percent.encode Percent.inPath last).length <
      (Percent.encode Percent.inPath (last ++ blanks ++ [b])).length := by
    have hlong : ∀ n < 0x21, 0 < (Percent.encodeChar Percent.inPath (Char.ofNat n)).length := by
      decide +kernel
    have hblank := hlong b.toNat (by omega)
    rw [Char.ofNat_toNat] at hblank
    simp only [Percent.encode, List.flatMap_append, List.length_append, List.flatMap_cons]
    omega
  have harrive := length_pathText_arrive_le
    ((front.map (Percent.encode Percent.inPath)).foldl enter []) (Percent.encode Percent.inPath last)
  have hread : readPath (c :: rest) =
      (arrive ((front.map (Percent.encode Percent.inPath)).foldl enter [])
        (Percent.encode Percent.inPath last)).reverse := by
    rw [readPath_cons hc, hbefore, follow_append _ _ (by simp), follow_singleton]
  have hplace : place (c :: rest ++ (blanks ++ [b])) =
      Percent.encode Percent.inPath (last ++ blanks ++ [b]) ::
        (front.map (Percent.encode Percent.inPath)).foldl enter [] := by
    rw [List.cons_append, place, hbehind, List.foldl_append, List.foldl_cons, List.foldl_nil,
      enter_of_not_isDots hdots]
  rw [hread, hplace, length_pathText_cons]
  omega

end Url

end AlarmMonitor.Http
