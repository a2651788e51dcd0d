import AlarmMonitor.Proofs.Http.Path

/-!
# Spellings of web addresses

The text of a web address is a scheme, any slashes, an authority, and what stands behind it.

* `Spelling`: a text in these parts;
* `Spelling.read_eq`: what a text in these parts is read as;
* `exists_spelling`: every text that is read as a web address has these parts;
* `Spelling.exists_url_withRest`: the address of the same authority with another text behind it.
-/

set_option autoImplicit false

namespace AlarmMonitor.Http.Url

open Text (takeWhile_boundary dropWhile_boundary head_dropWhile of_mem_takeWhile)

/-- A text that spells a web address, if its authority can be read. -/
structure Spelling where
  scheme : Scheme
  name : List Char
  slashes : List Char
  authority : List Char
  rest : List Char
  name_begins : name.head?.any Char.isAlpha = true
  name_all : name.all isSchemeChar = true
  name_lower : name.map Char.toLower = scheme.name.toList
  slashes_all : ∀ c ∈ slashes, isSlash c = true
  authority_ne_nil : authority ≠ []
  authority_all : ∀ c ∈ authority, endsAuthority c = false
  rest_begins : ∀ c ∈ rest.head?, endsAuthority c = true

namespace Spelling

/-- What stands before the authority. -/
def opening (s : Spelling) : List Char := s.name ++ ':' :: s.slashes

/-- The whole text. -/
def text (s : Spelling) : List Char := s.opening ++ (s.authority ++ s.rest)

/-- The path behind the authority. -/
def path (s : Spelling) : List Char := s.rest.takeWhile (!endsPath ·)

/-- What stands behind the path. -/
def tail (s : Spelling) : List Char := s.rest.dropWhile (!endsPath ·)

/-- The address spelt so, its host and port given. -/
def withHost (s : Spelling) (host : Host) (port : Option Nat) : Url where
  scheme := s.scheme
  username := (readUser (userSection s.authority).1).1
  password := (readUser (userSection s.authority).1).2
  host := host
  port := port.filter (· != s.scheme.port)
  path := readPath s.path
  query := (readTail s.tail).1
  fragment := (readTail s.tail).2

/-- The address spelt so. -/
def url (s : Spelling) : Except Fault Url := do
  let (host, port) ← readHostPort (userSection s.authority).2
  return s.withHost host port

theorem readWeb_eq (s : Spelling) :
    readWeb s.scheme (s.slashes ++ (s.authority ++ s.rest)) = s.url := by
  have hslashes : ∀ c ∈ (s.authority ++ s.rest).head?, isSlash c = false := by
    intro c hc
    obtain ⟨a, as, has⟩ := List.exists_cons_of_ne_nil s.authority_ne_nil
    have ha := s.authority_all a (by simp [has])
    obtain rfl : a = c := by simpa [has] using hc
    simp only [endsAuthority, Bool.or_eq_false_iff] at ha
    exact ha.1.1
  have hin : ∀ c ∈ s.authority, (!endsAuthority c) = true := by
    intro c hc
    simp [s.authority_all c hc]
  have hout : ∀ c ∈ s.rest.head?, (!endsAuthority c) = false := by
    intro c hc
    simp [s.rest_begins c hc]
  rw [readWeb, dropWhile_boundary s.slashes_all hslashes, takeWhile_boundary hin hout,
    dropWhile_boundary hin hout]
  rfl

theorem scheme?_eq (s : Spelling) :
    scheme? s.text = some (s.scheme.name.toList, s.slashes ++ (s.authority ++ s.rest)) := by
  have hcolon : ':' ∉ s.name := by
    intro hmem
    exact absurd (List.all_eq_true.mp s.name_all _ hmem) (by decide)
  obtain ⟨first, hfirst, halpha⟩ := (Option.any_eq_true _ _).mp s.name_begins
  rw [text, opening, List.append_assoc, List.cons_append, scheme?,
    Text.aroundFirst_append hcolon]
  simpa [hfirst, halpha, s.name_lower] using List.all_eq_true.mp s.name_all

/-- What a text in these parts is read as. -/
theorem read_eq (s : Spelling) {t : String} (h : clean t.toList = s.text) :
    read t = s.url.map .web := by
  rw [read, h, s.scheme?_eq]
  rw [← s.readWeb_eq]
  cases s.scheme <;> rfl

end Spelling

/-! ## Addresses and their spellings -/

theorem scheme?_eq_some {cs name rest : List Char} (h : scheme? cs = some (name, rest)) :
    ∃ written, cs = written ++ ':' :: rest ∧ written.head?.any Char.isAlpha = true ∧
      written.all isSchemeChar = true ∧ written.map Char.toLower = name := by
  rw [scheme?] at h
  obtain ⟨⟨written, behind⟩, hcolon, h⟩ := Option.bind_eq_some_iff.mp h
  obtain ⟨first, hfirst, h⟩ := Option.bind_eq_some_iff.mp h
  split at h
  · next hclass =>
      obtain ⟨rfl, rfl⟩ := Prod.mk.inj (Option.some.inj h)
      exact ⟨written, Text.eq_of_aroundFirst hcolon, by simp [hfirst, hclass.1], hclass.2, rfl⟩
  · cases h

theorem exists_readWeb {t : String} {u : Url} (h : read t = .ok (.web u)) :
    ∃ (scheme : Scheme) (rest : List Char),
      scheme? (clean t.toList) = some (scheme.name.toList, rest) ∧ readWeb scheme rest = .ok u := by
  have map_ne {f : Target} (hf : ∀ u, f ≠ .web u) {x : Except Fault Unit} :
      x.map (fun _ => f) ≠ .ok (.web u) := by
    intro hx
    cases x with
    | error e => cases hx
    | ok x => exact hf u (Except.ok.inj hx)
  have map_web {x : Except Fault Url} (hx : x.map Target.web = .ok (.web u)) : x = .ok u := by
    cases x with
    | error e => cases hx
    | ok v => exact congrArg _ (Target.web.inj (Except.ok.inj hx))
  have foreign_ne (name : String) (u : Url) : Target.foreign name ≠ .web u := nofun
  rw [read] at h
  split at h
  · cases h
  · next name rest hscheme =>
      have of_name {scheme : Scheme} (hname : String.ofList name = scheme.name) :
          scheme? (clean t.toList) = some (scheme.name.toList, rest) := by
        rw [hscheme, ← hname, String.toList_ofList]
      dsimp only at h
      split at h
      · next hname => exact ⟨.http, rest, of_name hname, map_web h⟩
      · next hname => exact ⟨.https, rest, of_name hname, map_web h⟩
      all_goals exact absurd h (map_ne (foreign_ne _))

/-- What is read as a web address spells one. -/
theorem exists_spelling {t : String} {u : Url} (h : read t = .ok (.web u)) :
    ∃ s : Spelling, clean t.toList = s.text ∧ s.url = .ok u := by
  obtain ⟨scheme, rest, hscheme, hread⟩ := exists_readWeb h
  obtain ⟨name, hname, hbegins, hall, hlower⟩ := scheme?_eq_some hscheme
  have hauthority : (rest.dropWhile isSlash).takeWhile (!endsAuthority ·) ≠ [] := by
    intro hnil
    rw [readWeb, hnil] at hread
    cases hread
  let s : Spelling :=
    { scheme, name
      slashes := rest.takeWhile isSlash
      authority := (rest.dropWhile isSlash).takeWhile (!endsAuthority ·)
      rest := (rest.dropWhile isSlash).dropWhile (!endsAuthority ·)
      name_begins := hbegins
      name_all := hall
      name_lower := hlower
      slashes_all := fun c hc => of_mem_takeWhile hc
      authority_ne_nil := hauthority
      authority_all := fun c hc => by simpa using of_mem_takeWhile hc
      rest_begins := fun c hc => by simpa using head_dropWhile _ _ c hc }
  have hrest : s.slashes ++ (s.authority ++ s.rest) = rest := by
    simp only [s, List.takeWhile_append_dropWhile]
  refine ⟨s, ?_, ?_⟩
  · rw [hname, ← hrest, Spelling.text, Spelling.opening, List.append_assoc, List.cons_append]
  · rw [← s.readWeb_eq, hrest]
    exact hread

/-! ## Other texts behind an authority -/

theorem readTail_eq_none_iff {cs : List Char} (h : ∀ c ∈ cs.head?, endsPath c = true) :
    ((readTail cs).1 = none ∧ (readTail cs).2 = none) ↔ cs = [] := by
  cases cs with
  | nil => simp [readTail, Text.aroundFirst]
  | cons c cs =>
      have hc : c = '?' ∨ c = '#' := by simpa [endsPath] using h c rfl
      rw [readTail]
      cases hhash : Text.aroundFirst '#' (c :: cs) with
      | some parts => simp
      | none =>
          rcases hc with rfl | rfl
          · simp
          · simp [Text.aroundFirst] at hhash

/-- Two addresses of the same server, asked in the name of the same user. -/
structure SameServer (u v : Url) : Prop where
  scheme : v.scheme = u.scheme
  username : v.username = u.username
  password : v.password = u.password
  host : v.host = u.host
  port : v.port = u.port

namespace Spelling

variable {s : Spelling} {u : Url}

theorem exists_withHost (h : s.url = .ok u) :
    ∃ host port, readHostPort (userSection s.authority).2 = .ok (host, port) ∧
      s.withHost host port = u := by
  rw [url] at h
  cases hread : readHostPort (userSection s.authority).2 with
  | error f => rw [hread] at h; cases h
  | ok place =>
      rw [hread] at h
      exact ⟨place.1, place.2, rfl, Except.ok.inj h⟩

/-- Nothing follows the path of an address if no character of its text ends a path. -/
theorem no_tail_iff (h : s.url = .ok u) :
    (u.query = none ∧ u.fragment = none) ↔ ∀ c ∈ s.rest, endsPath c = false := by
  obtain ⟨host, port, -, rfl⟩ := exists_withHost h
  have hends : ∀ c ∈ s.tail.head?, endsPath c = true := by
    intro c hc
    simpa using head_dropWhile _ _ c hc
  refine (readTail_eq_none_iff hends).trans ⟨fun hnil => ?_, fun hrest => ?_⟩
  · intro c hc
    rw [← List.takeWhile_append_dropWhile (p := (!endsPath ·)) (l := s.rest), ← tail, hnil,
      List.append_nil] at hc
    simpa using of_mem_takeWhile hc
  · have hall : ∀ c ∈ s.rest, (!endsPath c) = true := by
      intro c hc
      simp [hrest c hc]
    have hdrop : (s.rest ++ []).dropWhile (!endsPath ·) = [] := dropWhile_boundary hall (by simp)
    rwa [List.append_nil] at hdrop

theorem path_eq (h : s.url = .ok u) (hrest : ∀ c ∈ s.rest, endsPath c = false) :
    u.path = readPath s.rest := by
  obtain ⟨host, port, -, rfl⟩ := exists_withHost h
  have hall : ∀ c ∈ s.rest, (!endsPath c) = true := by
    intro c hc
    simp [hrest c hc]
  have htake : (s.rest ++ []).takeWhile (!endsPath ·) = s.rest := takeWhile_boundary hall (by simp)
  rw [List.append_nil] at htake
  rw [withHost, path, htake]

/-- The same authority with another text behind it. -/
def withRest (s : Spelling) (rest : List Char) (h : ∀ c ∈ rest.head?, endsAuthority c = true) :
    Spelling :=
  { s with rest := rest, rest_begins := h }

/-- The address of the same authority with another text behind it. -/
theorem exists_url_withRest (h : s.url = .ok u) {rest : List Char}
    (hrest : ∀ c ∈ rest.head?, endsAuthority c = true) :
    ∃ v, (s.withRest rest hrest).url = .ok v ∧ SameServer u v := by
  obtain ⟨host, port, hread, rfl⟩ := exists_withHost h
  refine ⟨(s.withRest rest hrest).withHost host port, ?_, ⟨rfl, rfl, rfl, rfl, rfl⟩⟩
  rw [url, withRest, hread]
  rfl

end Spelling

end AlarmMonitor.Http.Url
