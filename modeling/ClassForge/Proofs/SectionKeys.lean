import ClassForge.Proofs.KeyPlaces
import ClassForge.Toml.Document

/-!
Keys and the sections they are in. The search for a key of a section begins behind the first place
where the name of the section stands in brackets, header or not, and goes on to the end of the text.
Which section the key that it finds is in depends only on the lines from that place on.
-/
namespace ClassForge.Settings.KeySearch
open Text

/-- Whether a line begins with a bracket, as the header of a section does. -/
def opensSection (line : List Char) : Bool := (trimLeft line).head? == some '['

/-- The header of a section, or of one of several sections of that name; a remark may follow. -/
def IsHeader (name : String) (line : List Char) : Prop :=
  ∃ rest, (trimLeft line = bracketed name ++ rest ∨
      trimLeft line = '[' :: bracketed name ++ ']' :: rest) ∧
    ((trimLeft rest).head? = none ∨ (trimLeft rest).head? = some '#')

def opening? (before : List Char) : Option (List Char) :=
  ((lines before).filter opensSection).getLast?

/-- What is behind the text `before` is in the section. -/
def InSection (name : String) (before : List Char) : Prop :=
  ∃ line, opening? before = some line ∧ IsHeader name line

theorem IsHeader.named {name : String} {line : List Char} (header : IsHeader name line) :
    bracketed name <:+: line := by
  obtain ⟨rest, begun, -⟩ := header
  have inside : trimLeft line <:+: line := (List.dropWhile_suffix isBlank).isInfix
  refine List.IsInfix.trans ?_ inside
  rcases begun with single | double
  · exact ⟨[], rest, single.symm⟩
  · exact ⟨['['], ']' :: rest, by simpa using double.symm⟩

theorem opening?_append {before : List Char} (whole : Whole before) (more : List Char) :
    opening? (before ++ more) = (opening? more).or (opening? before) := by
  rw [opening?, lines_append whole, List.filter_append, List.getLast?_append]
  rfl

theorem inSection_append {name : String} {before : List Char} (whole : Whole before)
    (unnamed : ¬bracketed name <:+: before) (more : List Char) :
    InSection name (before ++ more) ↔ InSection name more := by
  rw [InSection, opening?_append whole, InSection]
  cases here : opening? more with
  | some line => rfl
  | none =>
    rw [Option.none_or]
    constructor
    · rintro ⟨line, last, header⟩
      have member : line ∈ lines before := (List.mem_filter.mp (List.mem_of_getLast? last)).1
      exact absurd (header.named.trans (infix_of_mem_lines member)) unnamed
    · rintro ⟨line, last, -⟩
      cases last

/-- The key that is found is the first one behind the first place where the name of the section
stands in brackets. It is in the section if the last header from the line of that place on says so. -/
theorem section_of_found_key {content name key : String} {o : Nat}
    (found : offset? content [name] key = some o) :
    ∃ earlier opening after passed blank,
      Whole earlier ∧ '\n' ∉ opening ∧
      FirstCut (bracketed name) content.toList (earlier ++ opening) after ∧
      Stands key.toList after passed blank ∧
      o + wideBreaks passed =
        Utf8.size (earlier ++ (opening ++ bracketed name ++ passed ++ blank)) ∧
      (key ≠ "" → ∀ place, KeyAt content [name] key place → o + wideBreaks passed ≤ place) ∧
      (InSection name (earlier ++ (opening ++ bracketed name ++ passed ++ blank)) ↔
        InSection name (opening ++ bracketed name ++ passed ++ blank)) := by
  obtain ⟨front, after, passed, blank, begins, stands, place, least⟩ := offset?_places found
  obtain ⟨before, cut⟩ : ∃ before, FirstCut (bracketed name) content.toList before after ∧
      front = before ++ bracketed name := by
    cases begins with
    | named cut => exact ⟨_, cut, rfl⟩
  obtain ⟨cut, rfl⟩ := cut
  obtain ⟨earlier, opening, rfl, whole, unbroken⟩ := whole_append_unbroken before
  refine ⟨earlier, opening, after, passed, blank, whole, unbroken, cut, stands, by simpa using place,
    fun given other there => place ▸ least (proper_of_offset? given found) other there, ?_⟩
  refine inSection_append whole (fun ⟨left, right, inside⟩ => ?_) _
  -- The name would stand in brackets before its first place.
  have first := cut.first left (right ++ opening ++ bracketed name ++ after) (by
    rw [cut.whole, ← inside]
    simp)
  have length := congrArg List.length inside
  simp only [bracketed, List.length_append, List.length_cons] at first length
  omega

theorem section_of_found_key_second :
    let content := "[logging]\nlevel = 1\n[engine]\nlevels = 2\n  level = 3\n"
    offset? content ["engine"] "level" = some 42 ∧
      ∃ earlier opening after passed blank,
        Whole earlier ∧ '\n' ∉ opening ∧
        FirstCut (bracketed "engine") content.toList (earlier ++ opening) after ∧
        Stands "level".toList after passed blank ∧
        42 + wideBreaks passed =
          Utf8.size (earlier ++ (opening ++ bracketed "engine" ++ passed ++ blank)) ∧
        ("level" ≠ "" → ∀ place, KeyAt content ["engine"] "level" place →
          42 + wideBreaks passed ≤ place) ∧
        (InSection "engine" (earlier ++ (opening ++ bracketed "engine" ++ passed ++ blank)) ↔
          InSection "engine" (opening ++ bracketed "engine" ++ passed ++ blank)) := by
  intro content
  have found : offset? content ["engine"] "level" = some 42 := by decide +kernel
  exact ⟨found, section_of_found_key found⟩

/-- A remark that names a section makes the search find the key of another section. -/
theorem key_of_other_section_found :
    ¬∀ (content name key : String) (o : Nat) (before after : List Char),
      (Toml.parse content).toOption.isSome → offset? content [name] key = some o →
        content.toList = before ++ after → Utf8.size before = o → InSection name before := by
  intro inside
  let front := "# [engine]\n[logging]\n"
  let back := "level = 1\n[engine]\nlevel = 2\n"
  have document : (Toml.parse (front ++ back)).toOption.isSome := by decide +kernel
  have found : offset? (front ++ back) ["engine"] "level" = some 21 := by decide +kernel
  obtain ⟨line, last, rest, header, -⟩ := inside (front ++ back) "engine" "level" 21 front.toList
    back.toList document found String.toList_append (by decide)
  have opening : opening? front.toList = some "[logging]".toList := by decide
  obtain rfl := Option.some.inj (opening.symm.trans last)
  have body : trimLeft "[logging]".toList = "[logging]".toList := by decide
  rw [body] at header
  rcases header with single | double
  · simp [bracketed] at single
  · simp [bracketed] at double

end ClassForge.Settings.KeySearch
