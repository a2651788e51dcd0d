import AlarmMonitor.Proofs.Http.Blank
import AlarmMonitor.Proofs.Http.Spelling

/-!
# Endpoints joined to a base

A base is checked as it is read, without blanks around it and breaks in it, but an endpoint is put
behind it as it is written.

* `exists_lead`: what the text of the base and the text before a joined path have in common;
* `Lead.exists_read`, `Lead.read_eq_error`: what the joined text is read as;
* `Client.below_iff`: which bases let paths be joined to them;
* `Client.urlFor_of_build`: where the requests of a client go.
-/

set_option autoImplicit false

namespace AlarmMonitor.Http

open Text (head_dropWhile of_mem_takeWhile)

namespace Url

/-! ## Cleaning -/

/-- A text without blanks in front and without breaks. -/
def kept (cs : List Char) : List Char := (cs.dropWhile isMargin).filter (!isBreak ·)

theorem isBreak_eq_false {c : Char} (h : isMargin c = false) : isBreak c = false := by
  refine Bool.eq_false_iff.mpr fun hbreak => ?_
  simp only [isBreak, Bool.or_eq_true, beq_iff_eq] at hbreak
  rcases hbreak with (rfl | rfl) | rfl <;> exact absurd h (by decide)

/-- What is shown begins anew behind a character that is no blank. -/
theorem kept_append {d : Char} (hd : isMargin d = false) (cs ds : List Char) :
    kept (cs ++ d :: ds) = kept cs ++ (d :: ds).filter (!isBreak ·) := by
  have hdrop : (cs ++ d :: ds).dropWhile isMargin = cs.dropWhile isMargin ++ d :: ds := by
    rw [List.dropWhile_append]
    split
    · next hnil => simp [List.isEmpty_iff.mp hnil, hd]
    · rfl
  rw [kept, hdrop, List.filter_append, kept]

theorem exists_kept_eq (cs : List Char) :
    ∃ blanks, kept cs = clean cs ++ blanks ∧ ∀ c ∈ blanks, isMargin c = true := by
  let shown := cs.dropWhile isMargin
  refine ⟨((shown.reverse.takeWhile isMargin).reverse).filter (!isBreak ·), ?_, fun c hc => ?_⟩
  · rw [clean, ← List.filter_append, ← List.reverse_append, List.takeWhile_append_dropWhile,
      List.reverse_reverse, kept]
  · have hmem := (List.mem_filter.mp hc).1
    exact of_mem_takeWhile (List.mem_reverse.mp hmem)

theorem isMargin_getLast?_clean (cs : List Char) :
    ∀ c ∈ (clean cs).getLast?, isMargin c = false := by
  intro c hc
  let shown := (cs.dropWhile isMargin).reverse.dropWhile isMargin
  have hhead : ∀ d ∈ shown.head?, isMargin d = false := head_dropWhile _ _
  have hclean : clean cs = (shown.filter (!isBreak ·)).reverse := by
    rw [clean, List.filter_reverse]
  rw [hclean, List.getLast?_reverse] at hc
  cases hshown : shown with
  | nil => simp [hshown] at hc
  | cons d rest =>
      have hd : isMargin d = false := hhead d (by simp [hshown])
      obtain rfl : d = c := by simpa [hshown, isBreak_eq_false hd] using hc
      exact hd

/-- Nothing is cut off a text that does not end in a blank. -/
theorem clean_eq_kept {cs : List Char} (h : ∀ c ∈ (kept cs).getLast?, isMargin c = false) :
    clean cs = kept cs := by
  obtain ⟨blanks, hkept, hblanks⟩ := exists_kept_eq cs
  cases hlast : blanks.getLast? with
  | none => rw [hkept, List.getLast?_eq_none_iff.mp hlast, List.append_nil]
  | some c =>
      have hmargin := h c (by rw [hkept, List.getLast?_append, hlast]; rfl)
      rw [hblanks c (List.mem_of_getLast? hlast)] at hmargin
      cases hmargin

theorem getLast?_kept {cs : List Char} (h : kept cs ≠ []) :
    (kept cs).getLast? = (cs.filter (!isBreak ·)).getLast? := by
  have hfilter : cs.filter (!isBreak ·) =
      (cs.takeWhile isMargin).filter (!isBreak ·) ++ kept cs := by
    rw [kept, ← List.filter_append, List.takeWhile_append_dropWhile]
  rw [hfilter, List.getLast?_append]
  cases hlast : (kept cs).getLast? with
  | none => exact absurd (List.getLast?_eq_none_iff.mp hlast) h
  | some c => rfl

/-! ## Blanks and simple characters -/

theorem of_isMargin {c : Char} (h : isMargin c = true) :
    isSlash c = false ∧ endsPath c = false ∧ endsAuthority c = false := by
  have hall : ∀ n < 0x21, isSlash (Char.ofNat n) = false ∧ endsPath (Char.ofNat n) = false ∧
      endsAuthority (Char.ofNat n) = false := by
    decide
  have hlt : c.toNat < 0x21 := by
    have hle : c.toNat ≤ 0x20 := by simpa [isMargin] using h
    omega
  simpa using hall c.toNat hlt

theorem isMargin_of_simple {c : Char} (h : isSimple c = true) : isMargin c = false :=
  of_isSimple (motive := fun c => isMargin c = false) (by decide) h

theorem slash_cons_simple {e : List Char} (he : ∀ c ∈ e, isSimple c = true) :
    ∀ c ∈ '/' :: e, isSimple c = true := by
  intro c hc
  rcases List.mem_cons.mp hc with rfl | hc
  · decide
  · exact he c hc

/-- Nothing is cut off a path that is put behind a text. -/
theorem clean_append_simple (cs : List Char) {e : List Char} (he : ∀ c ∈ e, isSimple c = true) :
    clean (cs ++ '/' :: e) = kept cs ++ '/' :: e := by
  have hmargin : ∀ c ∈ '/' :: e, isMargin c = false :=
    fun c hc => isMargin_of_simple (slash_cons_simple he c hc)
  have hkept : kept (cs ++ '/' :: e) = kept cs ++ '/' :: e := by
    rw [kept_append (by decide), List.filter_eq_self.mpr]
    intro c hc
    simp [isBreak_eq_false (hmargin c hc)]
  rw [clean_eq_kept, hkept]
  intro c hc
  rw [hkept, List.getLast?_append] at hc
  cases hlast : ('/' :: e).getLast? with
  | none => simp at hlast
  | some d =>
      rw [hlast] at hc
      obtain rfl : d = c := by simpa using hc
      exact hmargin _ (List.mem_of_getLast? hlast)

end Url

/-! ## The text before a joined path -/

open Url Client

/-- Does a base end in something that is no blank, breaks aside? -/
def Client.EndsClean (base : String) : Prop :=
  ∀ c ∈ (base.toList.filter (!isBreak ·)).getLast?, isMargin c = false

/-- How the text before a joined path goes on behind the authority of its base: without the slashes
at the end of the base, but with the blanks that are cut off the base. -/
structure Lead (base : String) (s : Spelling) where
  behind : List Char
  blanks : List Char
  slashes : Nat
  behind_eq : behind ++ List.replicate slashes '/' = s.rest ++ blanks
  blank : ∀ c ∈ blanks, isMargin c = true
  blanks_eq_nil_iff : blanks = [] ↔ EndsClean base
  clean_eq : ∀ e : List Char, (∀ c ∈ e, isSimple c = true) →
    clean (trimEnd base.toList ++ '/' :: e) = s.opening ++ (s.authority ++ (behind ++ '/' :: e))

/-- Slashes behind two texts that are one belong to the second, if the first does not end in one. -/
theorem exists_append_of_slashes {cs front back : List Char} {n : Nat}
    (h : cs ++ List.replicate n '/' = front ++ back) (hlast : front.getLast? ≠ some '/') :
    ∃ rest, cs = front ++ rest ∧ rest ++ List.replicate n '/' = back := by
  rcases List.append_eq_append_iff.mp h with ⟨more, hfront, hslashes⟩ | ⟨rest, hcs, hback⟩
  · cases hmore : more.getLast? with
    | none =>
        obtain rfl := List.getLast?_eq_none_iff.mp hmore
        exact ⟨[], by simp [hfront], by simpa using hslashes⟩
    | some c =>
        have hmem : c ∈ List.replicate n '/' := by
          rw [hslashes]
          exact List.mem_append_left _ (List.mem_of_getLast? hmore)
        obtain rfl := (List.mem_replicate.mp hmem).2
        exact absurd (by rw [hfront, List.getLast?_append, hmore]; rfl) hlast
  · exact ⟨rest, hcs, hback.symm⟩

theorem kept_slashes (cs : List Char) (n : Nat) :
    kept (cs ++ List.replicate n '/') = kept cs ++ List.replicate n '/' := by
  cases n with
  | zero => simp
  | succ n =>
      rw [List.replicate_succ, kept_append (by decide), List.filter_eq_self.mpr]
      intro c hc
      rcases List.mem_cons.mp hc with rfl | hc
      · decide
      · obtain rfl := (List.mem_replicate.mp hc).2
        decide

theorem exists_lead {base : String} {s : Spelling} (h : clean base.toList = s.text) :
    Nonempty (Lead base s) := by
  obtain ⟨blanks, hblanks, hmargin⟩ := exists_kept_eq base.toList
  obtain ⟨n, hn⟩ := exists_eq_trimEnd_append base.toList
  have hkept : kept base.toList = kept (trimEnd base.toList) ++ List.replicate n '/' :=
    (congrArg kept hn).trans (kept_slashes _ n)
  have hfront : (s.opening ++ s.authority).getLast? ≠ some '/' := by
    intro hlast
    obtain ⟨c, hc⟩ : ∃ c, s.authority.getLast? = some c :=
      ⟨_, List.getLast?_eq_some_getLast s.authority_ne_nil⟩
    obtain rfl : c = '/' := by simpa [List.getLast?_append, hc] using hlast
    exact absurd (s.authority_all _ (List.mem_of_getLast? hc)) (by decide)
  have htext : kept (trimEnd base.toList) ++ List.replicate n '/' =
      (s.opening ++ s.authority) ++ (s.rest ++ blanks) := by
    rw [← hkept, hblanks, h, Spelling.text]
    simp
  have hne : kept base.toList ≠ [] := by
    rw [hblanks, h, Spelling.text, Spelling.opening]
    simp
  obtain ⟨behind, hbehind, hrest⟩ := exists_append_of_slashes htext hfront
  refine ⟨⟨behind, blanks, n, hrest, hmargin, ?_, ?_⟩⟩
  · rw [EndsClean, ← getLast?_kept hne]
    constructor
    · rintro rfl
      rw [hblanks, List.append_nil]
      exact isMargin_getLast?_clean _
    · intro hclean
      rw [← clean_eq_kept hclean] at hblanks
      exact List.append_right_eq_self.mp hblanks.symm
  · intro e he
    rw [clean_append_simple _ he, hbehind]
    simp

/-- A path with a slash behind it ends in two empty segments if its place ends in one. -/
theorem gap_iff {cs : List Char} (h : Opens cs) :
    [[], []] <:+ readPath (cs ++ ['/']) ↔ (place cs).head? = some [] := by
  rw [readPath_append h (e := []) (by simp), Text.splitBy, ← List.reverse_prefix]
  cases place cs with
  | nil => simp
  | cons segment rest => simp [List.cons_prefix_cons, eq_comm]

namespace Lead

variable {base : String} {s : Spelling} (l : Lead base s)

theorem behind_eq_append (h : l.blanks ≠ []) : l.behind = s.rest ++ l.blanks := by
  have heq := l.behind_eq
  cases hn : l.slashes with
  | zero => simpa [hn] using heq
  | succ n =>
      obtain ⟨c, hc⟩ : ∃ c, l.blanks.getLast? = some c := ⟨_, List.getLast?_eq_some_getLast h⟩
      have hlast := congrArg List.getLast? heq
      rw [hn, List.replicate_succ', ← List.append_assoc, List.getLast?_concat,
        List.getLast?_append, hc] at hlast
      obtain rfl : c = '/' := by simpa [eq_comm] using hlast
      exact absurd (l.blank _ (List.mem_of_getLast? hc)) (by decide)

/-- If blanks are cut off behind an authority, then no path can be put behind the base. -/
theorem read_eq_error (hrest : s.rest = []) (hblanks : l.blanks ≠ []) {e : List Char}
    (he : ∀ c ∈ e, isSimple c = true) :
    ∃ f, Url.read (String.ofList (trimEnd base.toList ++ '/' :: e)) = .error f := by
  let t : Spelling :=
    { s with
      authority := s.authority ++ l.blanks
      rest := '/' :: e
      authority_ne_nil := by simp [s.authority_ne_nil]
      authority_all := by
        intro c hc
        rcases List.mem_append.mp hc with hc | hc
        · exact s.authority_all c hc
        · exact (of_isMargin (l.blank c hc)).2.2
      rest_begins := by simp [endsAuthority, isSlash] }
  have htext : clean (trimEnd base.toList ++ '/' :: e) = t.text := by
    rw [l.clean_eq e he, l.behind_eq_append hblanks, hrest]
    simp [Spelling.text, Spelling.opening, t]
  obtain ⟨b, hb⟩ : ∃ b, l.blanks.getLast? = some b := ⟨_, List.getLast?_eq_some_getLast hblanks⟩
  have hmargin : b.toNat ≤ 0x20 := by
    simpa [isMargin] using l.blank b (List.mem_of_getLast? hb)
  have hlast : t.authority.getLast? = some b := by simp [t, List.getLast?_append, hb]
  obtain ⟨f, hf⟩ := readHostPort_blank hmargin hlast
  refine ⟨f, ?_⟩
  rw [t.read_eq (by rw [String.toList_ofList, htext]), Spelling.url, hf]
  rfl

theorem head_of_opens (h : l.blanks = [] ∨ s.rest ≠ []) :
    ∀ c ∈ l.behind.head?, endsAuthority c = true := by
  intro c hc
  have hhead : (s.rest ++ l.blanks).head? = some c := by
    rw [← l.behind_eq, List.head?_append, hc]
    rfl
  refine s.rest_begins c ?_
  rcases h with hblanks | hrest
  · simpa [hblanks] using hhead
  · obtain ⟨d, ds, hds⟩ := List.exists_cons_of_ne_nil hrest
    simpa [hds] using hhead

theorem endsPath_iff :
    (∀ c ∈ l.behind, endsPath c = false) ↔ ∀ c ∈ s.rest, endsPath c = false := by
  have hmem (c : Char) : c ∈ l.behind ++ List.replicate l.slashes '/' ↔ c ∈ s.rest ++ l.blanks := by
    rw [l.behind_eq]
  constructor
  · intro h c hc
    rcases List.mem_append.mp ((hmem c).mpr (List.mem_append_left _ hc)) with hc | hc
    · exact h c hc
    · obtain rfl := (List.mem_replicate.mp hc).2
      decide
  · intro h c hc
    rcases List.mem_append.mp ((hmem c).mp (List.mem_append_left _ hc)) with hc | hc
    · exact h c hc
    · exact (of_isMargin (l.blank c hc)).2.1

/-- Otherwise a path is put behind the text that follows the authority. -/
theorem exists_read {u : Url} (hu : s.url = .ok u) (h : l.blanks = [] ∨ s.rest ≠ [])
    {e : List Char} (he : ∀ c ∈ e, isSimple c = true) :
    ∃ v, Url.read (String.ofList (trimEnd base.toList ++ '/' :: e)) = .ok (.web v) ∧
      SameServer u v ∧
      ((v.query = none ∧ v.fragment = none) ↔ (u.query = none ∧ u.fragment = none)) ∧
      ((u.query = none ∧ u.fragment = none) →
        Opens l.behind ∧ v.path = readPath (l.behind ++ '/' :: e)) := by
  have hhead := l.head_of_opens h
  have hbegins : ∀ c ∈ (l.behind ++ '/' :: e).head?, endsAuthority c = true := by
    intro c hc
    cases hbehind : l.behind with
    | nil =>
        obtain rfl : '/' = c := by simpa [hbehind] using hc
        decide
    | cons d rest => exact hhead c (by simpa [hbehind] using hc)
  obtain ⟨v, hv, hserver⟩ := Spelling.exists_url_withRest hu hbegins
  have htext : clean (trimEnd base.toList ++ '/' :: e) = (s.withRest _ hbegins).text := by
    rw [l.clean_eq e he]
    rfl
  have hpath : (∀ c ∈ l.behind ++ '/' :: e, endsPath c = false) ↔
      ∀ c ∈ s.rest, endsPath c = false := by
    rw [← l.endsPath_iff, List.forall_mem_append]
    exact and_iff_left fun c hc => endsPath_of_simple (slash_cons_simple he c hc)
  refine ⟨v, ?_, hserver, ?_, fun hnone => ⟨?_, ?_⟩⟩
  · rw [Spelling.read_eq _ (by rw [String.toList_ofList, htext]), hv]
    rfl
  · rw [Spelling.no_tail_iff hv, Spelling.no_tail_iff hu]
    exact hpath
  · intro c hc
    have hrest := l.endsPath_iff.mpr ((Spelling.no_tail_iff hu).mp hnone)
    have hends : c ≠ '?' ∧ c ≠ '#' := by simpa [endsPath] using hrest c (List.mem_of_head? hc)
    simpa [endsAuthority, hends.1, hends.2] using hhead c hc
  · exact Spelling.path_eq hv (hpath.mpr ((Spelling.no_tail_iff hu).mp hnone))

/-- With a blank behind it, the path of the base is another one. -/
theorem pathText_ne {u : Url} (hpath : u.path = readPath s.rest) (hblanks : l.blanks ≠ [])
    (hrest : s.rest ≠ []) (hopens : Opens l.behind) {e : List Char}
    (he : ∀ c ∈ e, isSimple c = true) :
    pathText (readPath (l.behind ++ '/' :: e)) ≠ trimEnd (pathText u.path) ++ '/' :: e := by
  obtain ⟨c, rest, hc⟩ := List.exists_cons_of_ne_nil hrest
  obtain ⟨front, b, hb⟩ : ∃ front b, l.blanks = front ++ [b] :=
    ⟨_, _, (List.dropLast_concat_getLast hblanks).symm⟩
  have hbehind : l.behind = c :: rest ++ (front ++ [b]) := by
    rw [l.behind_eq_append hblanks, hc, hb]
  have hmargin : b.toNat ≤ 0x20 := by
    simpa [isMargin] using l.blank b (by simp [hb])
  have hslash : isSlash c = true := hopens c (by simp [hbehind])
  have hlonger := length_pathText_lt_of_blank hmargin hslash rest front
    fun d hd => (of_isMargin (l.blank d (by rw [hb]; exact hd))).1
  intro heq
  rw [pathText_readPath_append hopens he] at heq
  have hlength := congrArg List.length (List.append_cancel_right heq)
  obtain ⟨n, hn⟩ := exists_eq_trimEnd_append (pathText u.path)
  have htrim := congrArg List.length hn
  rw [hbehind, hpath, hc] at hlength
  rw [List.length_append, hpath, hc] at htrim
  omega

/-- Without blanks the path of the base goes on, if it does not end in an empty segment. -/
theorem pathText_eq_iff {u : Url} (hpath : u.path = readPath s.rest) (hblanks : l.blanks = [])
    (hopens : Opens l.behind) {e : List Char} (he : ∀ c ∈ e, isSimple c = true) :
    pathText (readPath (l.behind ++ '/' :: e)) = trimEnd (pathText u.path) ++ '/' :: e ↔
      (place l.behind).head? ≠ some [] := by
  have hrest : s.rest = l.behind ++ List.replicate l.slashes '/' := by
    rw [l.behind_eq, hblanks, List.append_nil]
  obtain ⟨k, hk⟩ := exists_pathText_readPath hopens l.slashes
  rw [pathText_readPath_append hopens he, hpath, hrest, hk, trimEnd_append_replicate,
    List.append_left_inj, eq_comm]
  exact trimEnd_pathText_eq_iff _

end Lead

/-! ## Bases that let paths be joined to them -/

namespace Client

/-- An address of the same server with nothing behind its path, which is the path of the other without
slashes at its end, one slash, and the given text. -/
structure Below (u v : Url) (e : List Char) : Prop where
  server : SameServer u v
  query : v.query = none
  fragment : v.fragment = none
  path : pathText v.path = trimEnd (pathText u.path) ++ '/' :: e

/-- What it takes to join paths to a base with an address: nothing follows the path of the address, no
blanks are cut off the end of the base, and with a slash behind it the path of the base does not end in
two empty segments. -/
structure Joins (base : String) (u : Url) : Prop where
  query : u.query = none
  fragment : u.fragment = none
  clean : EndsClean base
  segment : ∀ w, Url.read (String.ofList (trimEnd base.toList ++ ['/'])) = .ok (.web w) →
    ¬ [[], []] <:+ w.path

/-- A path leads below the base exactly if paths can be joined to it. -/
theorem below_iff {base : String} {u : Url} (h : Url.read base = .ok (.web u)) {e : List Char}
    (he : ∀ c ∈ e, isSimple c = true) :
    (∃ v, Url.read (String.ofList (trimEnd base.toList ++ '/' :: e)) = .ok (.web v) ∧ Below u v e) ↔
      Joins base u := by
  obtain ⟨s, htext, hu⟩ := exists_spelling h
  obtain ⟨l⟩ := exists_lead htext
  by_cases hopen : l.blanks = [] ∨ s.rest ≠ []
  · obtain ⟨v, hv, hserver, hnone, hpath⟩ := l.exists_read hu hopen he
    have hbelow : (∃ v, Url.read (String.ofList (trimEnd base.toList ++ '/' :: e)) = .ok (.web v) ∧
        Below u v e) ↔ Below u v e := by
      constructor
      · rintro ⟨v', hv', hbelow⟩
        rw [hv] at hv'
        obtain rfl := Target.web.inj (Except.ok.inj hv')
        exact hbelow
      · exact fun hbelow => ⟨v, hv, hbelow⟩
    rw [hbelow]
    by_cases htail : u.query = none ∧ u.fragment = none
    · obtain ⟨hopens, hvpath⟩ := hpath htail
      have hupath := Spelling.path_eq hu ((Spelling.no_tail_iff hu).mp htail)
      by_cases hblanks : l.blanks = []
      · obtain ⟨w, hw, -, -, hwpath⟩ := l.exists_read hu hopen (e := []) (by simp)
        have hgap : (∀ w, Url.read (String.ofList (trimEnd base.toList ++ ['/'])) = .ok (.web w) →
            ¬ [[], []] <:+ w.path) ↔ (place l.behind).head? ≠ some [] := by
          rw [hw, ne_eq, ← gap_iff hopens, ← (hwpath htail).2]
          constructor
          · exact fun hall => hall w rfl
          · intro hw' w' heq
            obtain rfl := Target.web.inj (Except.ok.inj heq)
            exact hw'
        have heq := l.pathText_eq_iff hupath hblanks hopens he
        rw [← hvpath] at heq
        constructor
        · intro hb
          exact ⟨htail.1, htail.2, l.blanks_eq_nil_iff.mp hblanks, hgap.mpr (heq.mp hb.path)⟩
        · intro hj
          exact ⟨hserver, (hnone.mpr htail).1, (hnone.mpr htail).2, heq.mpr (hgap.mp hj.segment)⟩
      · have hrest := hopen.resolve_left hblanks
        have hne := l.pathText_ne hupath hblanks hrest hopens he
        rw [← hvpath] at hne
        exact iff_of_false (fun hb => hne hb.path)
          fun hj => hblanks (l.blanks_eq_nil_iff.mpr hj.clean)
    · refine iff_of_false (fun hb => htail (hnone.mp ⟨hb.query, hb.fragment⟩))
        fun hj => htail ⟨hj.query, hj.fragment⟩
  · obtain ⟨hblanks, hrest⟩ := not_or.mp hopen
    obtain ⟨f, hf⟩ := l.read_eq_error (Classical.not_not.mp hrest) hblanks he
    refine iff_of_false ?_ fun hj => hblanks (l.blanks_eq_nil_iff.mpr hj.clean)
    rintro ⟨v, hv, -⟩
    rw [hf] at hv
    cases hv

/-! ## Clients -/

theorem exists_of_build {base : Option String} {timeout : Option Duration} {c : Client}
    (h : build base timeout = .ok c) :
    (∃ u, Url.read (base.getD defaultBaseUrl) = .ok (.web u)) ∧
      c.base = String.ofList (trimEnd (base.getD defaultBaseUrl).toList) := by
  rw [build] at h
  split at h
  · cases h
  · cases h
  · next u hread =>
      obtain rfl := Except.ok.inj h
      exact ⟨⟨u, hread⟩, rfl⟩

theorem trimEnd_trimEnd (cs : List Char) : trimEnd (trimEnd cs) = trimEnd cs := by
  obtain ⟨n, hn⟩ := exists_eq_trimEnd_append cs
  conv => rhs; rw [hn, trimEnd_append_replicate]

theorem isAbsolute_iff {cs : List Char} :
    isAbsolute cs = true ↔ "http://".toList <+: cs ∨ "https://".toList <+: cs := by
  simp only [isAbsolute, Bool.or_eq_true, Option.isSome_iff_exists, Text.behind_eq_some_iff]
  simp only [List.IsPrefix, eq_comm]

/-- The URL of an endpoint that is no web address in small letters. -/
theorem urlFor_eq {c : Client} {base endpoint : String}
    (hbase : c.base = String.ofList (trimEnd base.toList))
    (h : isAbsolute endpoint.toList = false) :
    c.urlFor endpoint =
      String.ofList (trimEnd base.toList ++ '/' :: endpoint.toList.dropWhile (· == '/')) := by
  rw [urlFor, join, h, hbase, String.toList_ofList, trimEnd_trimEnd]
  rfl

theorem colon_mem_trimEnd {base : String} {u : Url} (h : Url.read base = .ok (.web u)) :
    ':' ∈ trimEnd base.toList := by
  obtain ⟨s, htext, -⟩ := exists_spelling h
  have hclean : ':' ∈ Url.clean base.toList := by
    rw [htext, Spelling.text, Spelling.opening]
    simp
  obtain ⟨blanks, hkept, -⟩ := exists_kept_eq base.toList
  have hmem : ':' ∈ kept base.toList := by
    rw [hkept]
    exact List.mem_append_left _ hclean
  have hbase := (List.dropWhile_suffix _).subset (List.mem_filter.mp hmem).1
  obtain ⟨n, hn⟩ := exists_eq_trimEnd_append base.toList
  rw [hn] at hbase
  rcases List.mem_append.mp hbase with hbase | hslash
  · exact hbase
  · exact absurd (List.mem_replicate.mp hslash).2 (by decide)

/-- Requests go where the base says.  An endpoint is used unchanged exactly if it begins with the
scheme of a web address in small letters.  A path leads below the base exactly if paths can be joined
to the base at all, which is no matter of the path. -/
theorem urlFor_of_build {base : Option String} {timeout : Option Duration} {c : Client}
    (h : build base timeout = .ok c) :
    ∃ u, Url.read (base.getD defaultBaseUrl) = .ok (.web u) ∧
      (∀ endpoint : String, c.urlFor endpoint = endpoint ↔
        "http://".toList <+: endpoint.toList ∨ "https://".toList <+: endpoint.toList) ∧
      ∀ endpoint : String, (∀ ch ∈ endpoint.toList, isSimple ch = true) →
        ((∃ v, Url.read (c.urlFor endpoint) = .ok (.web v) ∧
            Below u v (endpoint.toList.dropWhile (· == '/'))) ↔
          Joins (base.getD defaultBaseUrl) u) := by
  obtain ⟨⟨u, hread⟩, hbase⟩ := exists_of_build h
  refine ⟨u, hread, fun endpoint => ?_, fun endpoint hsimple => ?_⟩
  · rw [← isAbsolute_iff]
    constructor
    · intro heq
      cases habsolute : isAbsolute endpoint.toList with
      | true => rfl
      | false =>
          -- The base, which holds a colon, would have to be among the slashes before the endpoint.
          rw [urlFor_eq hbase habsolute] at heq
          have hchars : (trimEnd (base.getD defaultBaseUrl).toList ++ ['/']) ++
              endpoint.toList.dropWhile (· == '/') = endpoint.toList := by
            simpa using congrArg String.toList heq
          have hsplit := List.takeWhile_append_dropWhile (p := (· == '/')) (l := endpoint.toList)
          have hslashes := List.append_cancel_right (hchars.trans hsplit.symm)
          have hmem : ':' ∈ endpoint.toList.takeWhile (· == '/') := by
            rw [← hslashes]
            exact List.mem_append_left _ (colon_mem_trimEnd hread)
          exact absurd (of_mem_takeWhile hmem) (by decide)
    · intro habsolute
      rw [urlFor, join, habsolute]
      rfl
  · have habsolute : isAbsolute endpoint.toList = false := by
      refine Bool.eq_false_iff.mpr fun habsolute => ?_
      have hcolon : ':' ∈ endpoint.toList := by
        rcases isAbsolute_iff.mp habsolute with hprefix | hprefix
        · exact hprefix.subset (by decide)
        · exact hprefix.subset (by decide)
      exact absurd (hsimple _ hcolon) (by decide)
    rw [urlFor_eq hbase habsolute]
    refine below_iff hread fun ch hch => hsimple ch ?_
    exact (List.dropWhile_suffix _).subset hch

theorem urlFor_of_build_prefix :
    build (some "http://[::1]:8000/prefix/") none = .ok ⟨"http://[::1]:8000/prefix", defaultTimeout⟩ ∧
      ∃ u v, Url.read "http://[::1]:8000/prefix/" = .ok (.web u) ∧
        Url.read (urlFor ⟨"http://[::1]:8000/prefix", defaultTimeout⟩ "/api/x") = .ok (.web v) ∧
        Below u v "api/x".toList := by
  have hbuild : build (some "http://[::1]:8000/prefix/") none =
      .ok ⟨"http://[::1]:8000/prefix", defaultTimeout⟩ := rfl
  obtain ⟨u, hread, -, hpath⟩ := urlFor_of_build hbuild
  let there : Url :=
    ⟨.http, [], [], .ipv6 [0, 0, 0, 0, 0, 0, 0, 1], some 8000, ["prefix".toList, []], none, none⟩
  have hthere : Url.read "http://[::1]:8000/prefix/" = .ok (.web there) := rfl
  obtain rfl : there = u := Target.web.inj (Except.ok.inj (hthere.symm.trans hread))
  have hjoins : Joins "http://[::1]:8000/prefix/" there := by
    refine ⟨rfl, rfl, ?_, fun w hw => ?_⟩
    · intro c hc
      obtain rfl : '/' = c := Option.some.inj hc
      decide
    · have hsame : Url.read (String.ofList (trimEnd "http://[::1]:8000/prefix/".toList ++ ['/'])) =
          .ok (.web there) := rfl
      obtain rfl : there = w := Target.web.inj (Except.ok.inj (hsame.symm.trans hw))
      decide
  have hsimple : ∀ ch ∈ "/api/x".toList, isSimple ch = true := List.all_eq_true.mp rfl
  obtain ⟨v, hv, hbelow⟩ := (hpath "/api/x" hsimple).mpr hjoins
  exact ⟨hbuild, there, v, hread, hv, hbelow⟩

/-- A web address in capitals is joined to the base as if it were a path, and a base with a query takes
the path into its query. -/
theorem urlFor_misdirected :
    (build (some "http://[::1]:8000") none = .ok ⟨"http://[::1]:8000", defaultTimeout⟩ ∧
      (∃ v, Url.read "HTTP://[::2]/api/x" = .ok (.web v)) ∧
      urlFor ⟨"http://[::1]:8000", defaultTimeout⟩ "HTTP://[::2]/api/x" =
        "http://[::1]:8000/HTTP://[::2]/api/x") ∧
    (build (some "http://[::1]:8000/?k=1") none =
        .ok ⟨"http://[::1]:8000/?k=1", defaultTimeout⟩ ∧
      ∃ v, Url.read (urlFor ⟨"http://[::1]:8000/?k=1", defaultTimeout⟩ "/api/x") = .ok (.web v) ∧
        v.path = [[]] ∧ v.query = some "k=1/api/x".toList) := by
  refine ⟨⟨rfl, ⟨_, rfl⟩, by decide⟩, ⟨rfl, ?_⟩⟩
  exact ⟨_, rfl, rfl, rfl⟩

end Client

end AlarmMonitor.Http
