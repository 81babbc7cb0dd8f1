import ClassForge.Proofs.TextLines
import ClassForge.Settings.KeySearch

/-!
Where a key is found in a configuration text. The search finds the first line, behind the place where
it begins, that holds the key. The number it gives is the place of the key in a text whose line
breaks are single characters; every longer line break on the way makes it one byte too small.
-/
namespace ClassForge.Settings.KeySearch
open Text

def IsSign (c : Char) : Prop := c = ' ' ∨ c = '=' ∨ c = '\t'

/-- A line holds the key, with nothing but blank characters before it. -/
structure Holds (key line blank : List Char) : Prop where
  clear : ∀ c ∈ blank, isBlank c = true
  here : ∃ sign after, line = blank ++ key ++ sign :: after ∧ IsSign sign

structure Stands (key text passed blank : List Char) : Prop where
  whole : Whole passed
  unbroken : '\n' ∉ blank
  here : ∃ rest, text = passed ++ rest ∧ Holds key rest blank

/-- What the search can tell from blanks and line breaks. -/
structure Proper (key : List Char) : Prop where
  given : key ≠ []
  solid : ∀ c, key.head? = some c → isBlank c = false
  unbroken : '\n' ∉ key

section
variable {key line blank : List Char}

theorem body_of_inLine? {place : Nat} (found : inLine? key line = some place) :
    place = Utf8.size line - Utf8.size (trimLeft line) ∧
      ∃ sign after, trimLeft line = key ++ sign :: after ∧ IsSign sign := by
  rw [inLine?] at found
  split at found
  · rename_i sign after starts
    split at found
    · rename_i signs
      refine ⟨(Option.some.inj found).symm, sign, after, ?_, by simpa [IsSign, or_assoc] using signs⟩
      exact (List.isPrefixOf?_eq_some_iff_append_eq.mp starts).symm
    · cases found
  · cases found

theorem holds_of_inLine? {place : Nat} (found : inLine? key line = some place) :
    ∃ blank, Holds key line blank ∧ place = Utf8.size blank := by
  obtain ⟨rfl, sign, after, body, signs⟩ := body_of_inLine? found
  have cut : line = line.takeWhile isBlank ++ trimLeft line :=
    List.takeWhile_append_dropWhile.symm
  have size := congrArg Utf8.size cut
  rw [Utf8.size_append] at size
  refine ⟨line.takeWhile isBlank, ⟨List.all_eq_true.mp List.all_takeWhile, sign, after, ?_, signs⟩,
    by omega⟩
  rw [List.append_assoc, ← body]
  exact cut

theorem inLine?_solid {place : Nat} (found : inLine? key line = some place) :
    (∀ c, key.head? = some c → isBlank c = false) ∧ ∀ c ∈ key, c ∈ line := by
  obtain ⟨-, sign, after, body, -⟩ := body_of_inLine? found
  constructor
  · intro c first
    have solid := List.head?_dropWhile_not isBlank line
    rw [show line.dropWhile isBlank = _ from body, List.head?_append, first] at solid
    exact solid
  · intro c member
    refine (List.dropWhile_suffix isBlank).subset (?_ : c ∈ trimLeft line)
    rw [body]
    exact List.mem_append_left _ member

theorem inLine?_of_holds (proper : Proper key) (holds : Holds key line blank) :
    inLine? key line = some (Utf8.size blank) := by
  obtain ⟨clear, sign, after, rfl, signs⟩ := holds
  obtain ⟨first, key, rfl⟩ := List.exists_cons_of_ne_nil proper.given
  have solid : isBlank first = false := proper.solid first rfl
  have body : trimLeft (blank ++ (first :: key) ++ sign :: after) = (first :: key) ++ sign :: after := by
    rw [trimLeft, List.append_assoc, List.dropWhile_append_of_pos clear]
    exact List.dropWhile_cons_of_neg (by simp [solid])
  have starts : (first :: key).isPrefixOf? ((first :: key) ++ sign :: after) = some (sign :: after) :=
    List.isPrefixOf?_eq_some_iff_append_eq.mpr rfl
  have signed : (sign == ' ' || sign == '=' || sign == '\t') = true := by
    simpa [IsSign, or_assoc] using signs
  rw [inLine?, body, starts]
  simp only [signed, ↓reduceIte, Utf8.size_append]
  congr 1
  omega

theorem Holds.append (holds : Holds key line blank) (more : List Char) :
    Holds key (line ++ more) blank := by
  obtain ⟨clear, sign, after, rfl, signs⟩ := holds
  exact ⟨clear, sign, after ++ more, by simp, signs⟩

theorem Holds.unbroken (holds : Holds key line blank) (unbroken : '\n' ∉ line) : '\n' ∉ blank := by
  obtain ⟨-, sign, after, rfl, -⟩ := holds
  exact fun member => unbroken (by simp [member])

theorem Holds.within {ending rest : List Char} (breaks : Breaks line ending) (proper : Proper key)
    (unbroken : '\n' ∉ blank) (holds : Holds key (line ++ ending ++ rest) blank) :
    Holds key line blank := by
  obtain ⟨clear, sign, after, cut, signs⟩ := holds
  have plain : sign ≠ '\n' ∧ sign ≠ '\r' := by
    rcases signs with rfl | rfl | rfl <;> decide
  have starts : blank ++ key ++ [sign] <+: line ++ ending ++ rest := ⟨after, by simp [cut]⟩
  have single : '\n' ∉ blank ++ key ++ [sign] := by
    simpa [not_or, unbroken, proper.unbroken] using plain.1.symm
  obtain ⟨more, whole⟩ := breaks.within single plain.2 starts
  exact ⟨clear, sign, more, by simp [← whole], signs⟩

end

section
variable {key line ending rest passed blank : List Char}

theorem Stands.ofFirst (unbroken : '\n' ∉ line) (holds : Holds key line blank)
    (more : List Char) : Stands key (line ++ more) [] blank :=
  ⟨.inl rfl, holds.unbroken unbroken, line ++ more, rfl, holds.append more⟩

theorem Stands.later (breaks : Breaks line ending) (stands : Stands key rest passed blank) :
    Stands key (line ++ ending ++ rest) (line ++ ending ++ passed) blank := by
  obtain ⟨whole, unbroken, behind, rfl, holds⟩ := stands
  exact ⟨breaks.whole whole, unbroken, behind, by simp, holds⟩

theorem Stands.inLast (unbroken : '\n' ∉ line) (stands : Stands key line passed blank) :
    passed = [] ∧ Holds key line blank := by
  obtain ⟨whole, -, behind, rfl, holds⟩ := stands
  obtain rfl : passed = [] := whole.resolve_right fun last =>
    unbroken (List.mem_append_left _ (List.mem_of_getLast? last))
  exact ⟨rfl, holds⟩

theorem Stands.firstOrLater (breaks : Breaks line ending) (proper : Proper key)
    (stands : Stands key (line ++ ending ++ rest) passed blank) :
    passed = [] ∧ Holds key line blank ∨
      ∃ further, passed = line ++ ending ++ further ∧ Stands key rest further blank := by
  obtain ⟨whole, unbroken, behind, cut, holds⟩ := stands
  by_cases first : passed = []
  · subst first
    rw [List.nil_append] at cut
    exact .inl ⟨rfl, (cut ▸ holds).within breaks proper unbroken⟩
  · obtain ⟨further, rfl, -, wholeLater⟩ := breaks.begins whole first ⟨behind, cut.symm⟩
    refine .inr ⟨further, rfl, wholeLater, unbroken, behind, ?_, holds⟩
    simpa using cut

def Finds (key text : List Char) (offset : Nat) : Option Nat → Prop
  | none => Proper key → ∀ passed blank, ¬Stands key text passed blank
  | some o => ∃ passed blank, Stands key text passed blank ∧
      o + wideBreaks passed = offset + Utf8.size (passed ++ blank) ∧
      (Proper key → ∀ passed' blank', Stands key text passed' blank' →
        Utf8.size (passed ++ blank) ≤ Utf8.size (passed' ++ blank'))

theorem finds_first (offset : Nat) (more : List Char) (unbroken : '\n' ∉ line)
    (holds : Holds key line blank)
    (first : Proper key → ∀ passed' blank', Stands key (line ++ more) passed' blank' →
      passed' = [] ∧ Holds key line blank' ∨ Utf8.size line ≤ Utf8.size passed') :
    Finds key (line ++ more) offset (some (offset + Utf8.size blank)) := by
  refine ⟨[], blank, .ofFirst unbroken holds more, by simp [wideBreaks], ?_⟩
  intro proper passed' blank' stands
  rcases first proper passed' blank' stands with ⟨rfl, same⟩ | later
  · have places := (inLine?_of_holds proper holds).symm.trans (inLine?_of_holds proper same)
    simpa using Nat.le_of_eq (Option.some.inj places)
  · obtain ⟨-, sign, after, rfl, -⟩ := holds
    simp only [Utf8.size_append, List.nil_append] at later ⊢
    omega

/-- The search goes line after line; every line before the one that has the key counts one byte for
its line break. -/
theorem inLines?_finds (key text : List Char) (offset : Nat) :
    Finds key text offset (inLines? key offset (lines text)) := by
  induction text using line_induction generalizing offset with
  | last line unbroken =>
    by_cases empty : line = []
    · subst empty
      rintro - passed blank ⟨-, -, behind, cut, -, sign, after, rfl, -⟩
      simp at cut
    rw [lines_unbroken unbroken empty, inLines?]
    split
    · rename_i found
      obtain ⟨blank, holds, rfl⟩ := holds_of_inLine? found
      have here := finds_first offset [] unbroken holds
      rw [List.append_nil] at here
      exact here fun _ passed' blank' stands => .inl (stands.inLast unbroken)
    · rename_i missed
      intro proper passed blank stands
      simp [inLine?_of_holds proper (stands.inLast unbroken).2] at missed
  | further line ending rest breaks ih =>
    rw [breaks.lines_append, inLines?]
    split
    · rename_i found
      obtain ⟨blank, holds, rfl⟩ := holds_of_inLine? found
      rw [List.append_assoc]
      refine finds_first offset _ breaks.unbroken holds fun proper passed' blank' stands => ?_
      rw [← List.append_assoc] at stands
      rcases stands.firstOrLater breaks proper with first | ⟨further, rfl, -⟩
      · exact .inl first
      · exact .inr (by simp only [Utf8.size_append]; omega)
    · rename_i missed
      have later : ∀ passed' blank', Proper key → Stands key (line ++ ending ++ rest) passed' blank' →
          ∃ further, passed' = line ++ ending ++ further ∧ Stands key rest further blank' := by
        intro passed' blank' proper stands
        refine (stands.firstOrLater breaks proper).resolve_left fun first => ?_
        simp [inLine?_of_holds proper first.2] at missed
      have below := ih (offset + Utf8.size line + 1)
      cases result : inLines? key (offset + Utf8.size line + 1) (lines rest) with
      | none =>
        rw [result] at below
        intro proper passed blank stands
        obtain ⟨further, -, there⟩ := later passed blank proper stands
        exact below proper further blank there
      | some o =>
        rw [result] at below
        obtain ⟨passed, blank, stands, place, least⟩ := below
        refine ⟨line ++ ending ++ passed, blank, stands.later breaks, ?_, ?_⟩
        · have wide := breaks.size_eq
          rw [breaks.wideBreaks_append]
          simp only [Utf8.size_append] at place ⊢
          omega
        · intro proper passed' blank' there
          obtain ⟨further, rfl, behind⟩ := later passed' blank' proper there
          have less := least proper further blank' behind
          simp only [Utf8.size_append] at less ⊢
          omega

end

theorem proper_of_inLines? {key text : List Char} {offset o : Nat} (given : key ≠ [])
    (found : inLines? key offset (lines text) = some o) : Proper key := by
  have held : ∀ ls : List (List Char), ∀ offset, inLines? key offset ls = some o →
      ∃ line ∈ ls, ∃ place, inLine? key line = some place := by
    intro ls
    induction ls with
    | nil => simp [inLines?]
    | cons line rest ih =>
      intro offset found
      rw [inLines?] at found
      split at found
      · exact ⟨line, List.mem_cons_self, _, ‹_›⟩
      · obtain ⟨later, member, there⟩ := ih _ found
        exact ⟨later, List.mem_cons_of_mem line member, there⟩
  obtain ⟨line, member, place, here⟩ := held _ _ found
  obtain ⟨solid, inside⟩ := inLine?_solid here
  exact ⟨given, solid, fun broken => unbroken_of_mem_lines member (inside _ broken)⟩

def bracketed (name : String) : List Char := '[' :: name.toList ++ [']']

/-- The search begins at the start of the text or, for a section, behind the first place where its
name stands in brackets. -/
inductive Begins (content : List Char) : List String → List Char → List Char → Prop where
  | top : Begins content [] [] content
  | named {name : String} {more : List String} {before after : List Char}
      (cut : FirstCut (bracketed name) content before after) :
      Begins content (name :: more) (before ++ bracketed name) after

theorem Begins.append {content front text : List Char} {path : List String}
    (begins : Begins content path front text) : content = front ++ text := by
  cases begins with
  | top => rfl
  | named cut => exact cut.whole

theorem start?_eq_some_iff {content text : List Char} {path : List String} {offset : Nat} :
    start? content path = some (offset, text) ↔
      ∃ front, Begins content path front text ∧ offset = Utf8.size front := by
  cases path with
  | nil =>
    rw [start?, Option.some.injEq, Prod.mk.injEq]
    constructor
    · rintro ⟨rfl, rfl⟩
      exact ⟨[], .top, rfl⟩
    · rintro ⟨front, begins, rfl⟩
      cases begins
      exact ⟨rfl, rfl⟩
  | cons name more =>
    rw [start?, Option.map_eq_some_iff]
    constructor
    · rintro ⟨⟨before, after⟩, found, same⟩
      obtain ⟨rfl, rfl⟩ := Prod.mk.inj same
      exact ⟨before ++ bracketed name, .named (around_eq_some_iff.mp found),
        (Utf8.size_append _ _).symm⟩
    · rintro ⟨front, begins, rfl⟩
      cases begins with
      | named cut =>
        exact ⟨_, around_eq_some_iff.mpr cut, congrArg (·, text) (Utf8.size_append _ _).symm⟩

/-- The key begins at a byte of the text, on a line where nothing is before it, or nothing behind
the place where the search begins. -/
def KeyAt (content : String) (path : List String) (key : String) (place : Nat) : Prop :=
  ∃ front text passed blank, Begins content.toList path front text ∧
    Stands key.toList text passed blank ∧ place = Utf8.size (front ++ passed ++ blank)

section
variable {content key : String} {path : List String}

theorem keyAt_iff {front text : List Char} (begins : Begins content.toList path front text)
    {place : Nat} : KeyAt content path key place ↔
      ∃ passed blank, Stands key.toList text passed blank ∧
        place = Utf8.size front + Utf8.size (passed ++ blank) := by
  constructor
  · rintro ⟨front', text', passed, blank, begins', stands, rfl⟩
    have same := (start?_eq_some_iff.mpr ⟨front, begins, rfl⟩).symm.trans
      (start?_eq_some_iff.mpr ⟨front', begins', rfl⟩)
    obtain ⟨size, rfl⟩ := Prod.mk.inj (Option.some.inj same)
    exact ⟨passed, blank, stands, by rw [List.append_assoc, Utf8.size_append, size]⟩
  · rintro ⟨passed, blank, stands, rfl⟩
    exact ⟨front, text, passed, blank, begins, stands,
      by rw [List.append_assoc, Utf8.size_append front]⟩

theorem offset?_begun {front text : List Char} (begins : Begins content.toList path front text) :
    offset? content path key = inLines? key.toList (Utf8.size front) (lines text) := by
  rw [offset?, start?_eq_some_iff.mpr ⟨front, begins, rfl⟩]
  rfl

theorem begins_of_offset? {o : Nat} (found : offset? content path key = some o) :
    ∃ front text, Begins content.toList path front text := by
  obtain ⟨⟨offset, text⟩, begun, -⟩ := Option.bind_eq_some_iff.mp found
  obtain ⟨front, begins, -⟩ := start?_eq_some_iff.mp begun
  exact ⟨front, text, begins⟩

theorem proper_of_offset? {o : Nat} (given : key ≠ "")
    (found : offset? content path key = some o) : Proper key.toList := by
  obtain ⟨front, text, begins⟩ := begins_of_offset? found
  rw [offset?_begun begins] at found
  exact proper_of_inLines? (mt String.toList_eq_nil_iff.mp given) found

theorem offset?_places {o : Nat} (found : offset? content path key = some o) :
    ∃ front text passed blank, Begins content.toList path front text ∧
      Stands key.toList text passed blank ∧
      o + wideBreaks passed = Utf8.size (front ++ passed ++ blank) ∧
      (Proper key.toList → ∀ place, KeyAt content path key place →
        Utf8.size (front ++ passed ++ blank) ≤ place) := by
  obtain ⟨front, text, begins⟩ := begins_of_offset? found
  have finds := inLines?_finds key.toList text (Utf8.size front)
  rw [← offset?_begun begins, found] at finds
  obtain ⟨passed, blank, stands, place, least⟩ := finds
  refine ⟨front, text, passed, blank, begins, stands, ?_, ?_⟩
  · rw [place, List.append_assoc, Utf8.size_append front]
  · intro proper other there
    obtain ⟨passed', blank', stands', rfl⟩ := (keyAt_iff begins).mp there
    rw [List.append_assoc, Utf8.size_append front]
    exact Nat.add_le_add_left (least proper passed' blank' stands') _

theorem offset?_missed (missed : offset? content path key = none) (proper : Proper key.toList)
    (place : Nat) : ¬KeyAt content path key place := by
  rintro ⟨front, text, passed, blank, begins, stands, -⟩
  have finds := inLines?_finds key.toList text (Utf8.size front)
  rw [← offset?_begun begins, missed] at finds
  exact finds proper passed blank stands

/-- Where line breaks are single characters the first place of the key is found. -/
theorem first_key_found (unpaired : ¬['\r', '\n'] <:+: content.toList)
    (proper : Proper key.toList) :
    (∀ o, offset? content path key = some o ↔
      KeyAt content path key o ∧ ∀ o', KeyAt content path key o' → o ≤ o') ∧
    (offset? content path key = none ↔ ∀ o, ¬KeyAt content path key o) := by
  have found : ∀ o, offset? content path key = some o →
      KeyAt content path key o ∧ ∀ o', KeyAt content path key o' → o ≤ o' := by
    intro o found
    obtain ⟨front, text, passed, blank, begins, stands, place, least⟩ := offset?_places found
    have narrow : wideBreaks passed = 0 := wideBreaks_eq_zero fun pair => by
      obtain ⟨rest, cut, -⟩ := stands.here
      refine unpaired (pair.trans ⟨front, rest, ?_⟩)
      rw [begins.append, cut, List.append_assoc]
    rw [narrow, Nat.add_zero] at place
    exact ⟨⟨front, text, passed, blank, begins, stands, place⟩, place ▸ least proper⟩
  refine ⟨fun o => ⟨found o, fun ⟨there, least⟩ => ?_⟩, fun missed => offset?_missed missed proper,
    fun nowhere => ?_⟩
  · cases result : offset? content path key with
    | none => exact absurd there (offset?_missed result proper o)
    | some o' =>
      obtain ⟨there', least'⟩ := found o' result
      exact congrArg some (Nat.le_antisymm (least' o there) (least o' there'))
  · cases result : offset? content path key with
    | none => rfl
    | some o => exact absurd (found o result).1 (nowhere o)

theorem first_key_found_behind_longer :
    let content := "[logging]\nlevels = 1\n\tlevel = 2\nlevel = 3"
    ¬['\r', '\n'] <:+: content.toList ∧ Proper "level".toList ∧
      offset? content ["logging"] "level" = some 22 ∧
      KeyAt content ["logging"] "level" 22 ∧
      ∀ o, KeyAt content ["logging"] "level" o → 22 ≤ o := by
  intro content
  have unpaired : ¬['\r', '\n'] <:+: content.toList := by decide
  have solid : ∀ c, "level".toList.head? = some c → isBlank c = false := fun c first =>
    Option.some.inj first ▸ rfl
  have proper : Proper "level".toList := ⟨by decide, solid, by decide⟩
  have found : offset? content ["logging"] "level" = some 22 := by decide +kernel
  exact ⟨unpaired, proper, found, ((first_key_found unpaired proper).1 22).mp found⟩

structure SpanAt (content key : String) (place : Nat) : Prop where
  bytes : ∃ sign rest, (Utf8.encode content).drop place = Utf8.encode key ++ sign :: rest ∧
    (sign = 32 ∨ sign = 61 ∨ sign = 9)
  starts : String.Pos.Raw.IsValid content ⟨place⟩
  ends : String.Pos.Raw.IsValid content ⟨place + key.utf8ByteSize⟩

theorem valid_behind {before rest : List Char} (cut : content.toList = before ++ rest) :
    String.Pos.Raw.IsValid content ⟨Utf8.size before⟩ := by
  refine String.Pos.Raw.isValid_iff_exists_append.mpr
    ⟨String.ofList before, String.ofList rest, ?_, ?_⟩
  · rw [← String.ofList_append, ← cut, String.ofList_toList]
  · rw [String.rawEndPos, Utf8.size_ofList]

theorem span_of_stands {front text passed blank : List Char}
    (begins : Begins content.toList path front text) (stands : Stands key.toList text passed blank) :
    SpanAt content key (Utf8.size (front ++ passed ++ blank)) := by
  obtain ⟨-, -, behind, rfl, -, sign, after, rfl, signs⟩ := stands
  have cut : content.toList = front ++ passed ++ blank ++ (key.toList ++ sign :: after) := by
    rw [begins.append]
    simp
  refine ⟨?_, valid_behind cut, ?_⟩
  · have dropped : (Utf8.encode content).drop (Utf8.size (front ++ passed ++ blank)) =
        (key.toList ++ sign :: after).flatMap String.utf8EncodeChar := by
      rw [Utf8.encode, cut, List.flatMap_append]
      exact List.drop_left' (Utf8.length_encoded _)
    rw [dropped, List.flatMap_append, List.flatMap_cons]
    rcases signs with rfl | rfl | rfl
    · exact ⟨32, after.flatMap String.utf8EncodeChar, rfl, by decide⟩
    · exact ⟨61, after.flatMap String.utf8EncodeChar, rfl, by decide⟩
    · exact ⟨9, after.flatMap String.utf8EncodeChar, rfl, by decide⟩
  · rw [← List.append_assoc] at cut
    have valid := valid_behind cut
    rwa [Utf8.size_append, Utf8.size_toList] at valid

/-- The number that is found falls short of the key's place by the line breaks of two characters
before it, and is the place of the key only if there are none. -/
theorem offset_short_by_wide_breaks {o : Nat} (found : offset? content path key = some o) :
    ∃ front text passed blank, Begins content.toList path front text ∧
      Stands key.toList text passed blank ∧
      o + wideBreaks passed = Utf8.size (front ++ passed ++ blank) ∧
      SpanAt content key (o + wideBreaks passed) ∧
      (key ≠ "" → (KeyAt content path key o ↔ wideBreaks passed = 0)) := by
  obtain ⟨front, text, passed, blank, begins, stands, place, least⟩ := offset?_places found
  refine ⟨front, text, passed, blank, begins, stands, place, place ▸ span_of_stands begins stands, ?_⟩
  intro given
  constructor
  · intro there
    have less := least (proper_of_offset? given found) o there
    omega
  · intro narrow
    rw [narrow, Nat.add_zero] at place
    exact ⟨front, text, passed, blank, begins, stands, place⟩

theorem offset_short_by_wide_breaks_one :
    let content := "[日本]\r\n  語=2"
    offset? content ["日本"] "語" = some 11 ∧
      ∃ front text passed blank, Begins content.toList ["日本"] front text ∧
        Stands "語".toList text passed blank ∧
        11 + wideBreaks passed = Utf8.size (front ++ passed ++ blank) ∧
        SpanAt content "語" (11 + wideBreaks passed) ∧
        ("語" ≠ "" → (KeyAt content ["日本"] "語" 11 ↔ wideBreaks passed = 0)) := by
  intro content
  have found : offset? content ["日本"] "語" = some 11 := by decide +kernel
  exact ⟨found, offset_short_by_wide_breaks found⟩

/-- Behind a line break of two characters the number is not the place of the key. -/
theorem wide_break_shifts_offset : ¬∀ (content key : String) (path : List String) (o : Nat),
    offset? content path key = some o → SpanAt content key o := by
  intro points
  have found : offset? "a=1\r\nx=2" [] "x" = some 4 := by decide +kernel
  obtain ⟨⟨sign, rest, bytes, -⟩, -, -⟩ := points "a=1\r\nx=2" "x" [] 4 found
  have there : (Utf8.encode "a=1\r\nx=2").drop 4 = [10, 120, 61, 50] := by decide +kernel
  have first : Utf8.encode "x" = [120] := by decide +kernel
  rw [there, first] at bytes
  simp at bytes

end

end ClassForge.Settings.KeySearch
