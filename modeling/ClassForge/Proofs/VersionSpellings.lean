import ClassForge.FormatVersion
import ClassForge.Proofs.NumberTexts
import Mathlib.Data.List.Induction

/-!
How versions are spelled. A text is read as a version exactly if, without the blanks around it, it
spells one: as a release, as `1.` and a release, or as its two numbers. Whatever the spelling, the
numbers fit their two bytes each, and written as a pair they are read as the same version.
-/
namespace ClassForge

namespace Number

/-- Decimal digits, at least one, and the number they stand for. There may be zeros in front. -/
inductive Digits : List Char → Nat → Prop where
  | single {d : Nat} (small : d < 10) : Digits [digitChar d] d
  | next {cs : List Char} {n d : Nat} (front : Digits cs n) (small : d < 10) :
      Digits (cs ++ [digitChar d]) (n * 10 + d)

/-- A number without a sign, or with a plus sign that says nothing. -/
inductive Numeral : List Char → Nat → Prop where
  | plain {cs : List Char} {n : Nat} (digits : Digits cs n) : Numeral cs n
  | signed {cs : List Char} {n : Nat} (digits : Digits cs n) : Numeral ('+' :: cs) n

theorem digitValue?_eq_some_iff {c : Char} {d : Nat} :
    digitValue? 10 c = some d ↔ d < 10 ∧ c = digitChar d := by
  constructor
  · intro read
    obtain ⟨known, small⟩ := Option.filter_eq_some_iff.mp read
    have small : d < 10 := by simpa using small
    refine ⟨small, ?_⟩
    have place : c.toNat = 48 + d := by
      repeat' split at known
      all_goals simp_all
      all_goals omega
    rw [digitChar, if_pos small, ← place, Char.ofNat_toNat]
  · rintro ⟨small, rfl⟩
    exact digitValue?_digitChar (by decide) small

theorem readDigits?_eq_some_iff {cs : List Char} {ds : List Nat} :
    readDigits? 10 cs = some ds ↔ (∀ d ∈ ds, d < 10) ∧ cs = ds.map digitChar := by
  rw [readDigits?]
  induction cs generalizing ds with
  | nil => cases ds <;> simp
  | cons c cs ih =>
    have parts : ∀ ds, (c :: cs).mapM (digitValue? 10) = some ds ↔
        ∃ d rest, digitValue? 10 c = some d ∧ cs.mapM (digitValue? 10) = some rest ∧
          d :: rest = ds := by
      simp [List.mapM_cons, Option.bind_eq_some_iff]
    rw [parts]
    cases ds with
    | nil => simp
    | cons d ds =>
      simp only [digitValue?_eq_some_iff, ih, List.forall_mem_cons, List.map_cons, List.cons.injEq]
      constructor
      · rintro ⟨_, _, first, others, rfl, rfl⟩
        exact ⟨⟨first.1, others.1⟩, first.2, others.2⟩
      · rintro ⟨⟨small, smaller⟩, first, others⟩
        exact ⟨d, ds, ⟨small, first⟩, ⟨smaller, others⟩, rfl, rfl⟩

theorem digits_iff {cs : List Char} {n : Nat} : Digits cs n ↔
    ∃ ds, ds ≠ [] ∧ (∀ d ∈ ds, d < 10) ∧ cs = ds.map digitChar ∧ value 10 ds = n := by
  constructor
  · intro digits
    induction digits with
    | @single d small => exact ⟨[d], by simp, by simpa using small, rfl, by simp [value]⟩
    | @next cs n d front small ih =>
      obtain ⟨ds, -, before, rfl, rfl⟩ := ih
      refine ⟨ds ++ [d], by simp, ?_, by simp, value_append_singleton 10 ds d⟩
      simpa [or_imp, forall_and] using ⟨before, small⟩
  · rintro ⟨ds, some, small, rfl, rfl⟩
    induction ds using List.reverseRecOn with
    | nil => exact absurd rfl some
    | append_singleton ds d ih =>
      obtain ⟨before, last⟩ := List.forall_mem_append.mp small
      have last : d < 10 := last d (by simp)
      rw [List.map_append, List.map_singleton, value_append_singleton]
      cases ds with
      | nil => simpa [value] using Digits.single last
      | cons first more => exact .next (ih (by simp) before) last

theorem mem_digits {cs : List Char} {n : Nat} (digits : Digits cs n) :
    ∀ c ∈ cs, ∃ d, d < 10 ∧ c = digitChar d := by
  obtain ⟨ds, -, small, rfl, -⟩ := digits_iff.mp digits
  intro c member
  obtain ⟨d, inside, rfl⟩ := List.mem_map.mp member
  exact ⟨d, small d inside, rfl⟩

theorem mem_numeral {cs : List Char} {n : Nat} (numeral : Numeral cs n) :
    ∀ c ∈ cs, c = '+' ∨ ∃ d, d < 10 ∧ c = digitChar d := by
  cases numeral with
  | plain digits => exact fun c member => .inr (mem_digits digits c member)
  | signed digits =>
    intro c member
    exact (List.mem_cons.mp member).imp_right (mem_digits digits c)

theorem pointless_numeral {cs : List Char} {n : Nat} (numeral : Numeral cs n) : '.' ∉ cs := by
  have other : ∀ d < 10, '.' ≠ digitChar d := by decide
  intro member
  rcases mem_numeral numeral _ member with sign | ⟨d, small, same⟩
  · exact absurd sign (by decide)
  · exact other d small same

theorem readDigits_iff {cs : List Char} {n limit : Nat} :
    (if cs.isEmpty then none else ((readDigits? 10 cs).map (value 10)).filter (· ≤ limit)) =
      some n ↔ Digits cs n ∧ n ≤ limit := by
  rw [digits_iff]
  cases cs with
  | nil => simp [Eq.comm (a := [])]
  | cons c cs =>
    rw [if_neg (by simp), Option.filter_eq_some_iff, Option.map_eq_some_iff]
    constructor
    · rintro ⟨⟨ds, read, rfl⟩, within⟩
      obtain ⟨small, written⟩ := readDigits?_eq_some_iff.mp read
      have some : ds ≠ [] := by
        rintro rfl
        cases written
      exact ⟨⟨ds, some, small, written, rfl⟩, by simpa using within⟩
    · rintro ⟨⟨ds, -, small, written, rfl⟩, within⟩
      exact ⟨⟨ds, readDigits?_eq_some_iff.mpr ⟨small, written⟩, rfl⟩, by simpa using within⟩

theorem readUnsigned?_eq_some_iff {cs : List Char} {n limit : Nat} :
    readUnsigned? 10 limit cs = some n ↔ Numeral cs n ∧ n ≤ limit := by
  have unsigned : ∀ d < 10, digitChar d ≠ '+' := by decide
  have signless : ∀ {cs n}, Digits cs n → ∀ rest, cs ≠ '+' :: rest := by
    rintro _ n digits rest rfl
    obtain ⟨d, small, same⟩ := mem_digits digits '+' List.mem_cons_self
    exact unsigned d small same.symm
  by_cases sign : ∃ rest, cs = '+' :: rest
  · obtain ⟨rest, rfl⟩ := sign
    have only : Numeral ('+' :: rest) n ↔ Digits rest n := by
      refine ⟨fun numeral => ?_, .signed⟩
      cases numeral with
      | signed digits => exact digits
      | plain digits => exact absurd rfl (signless digits rest)
    rw [only]
    exact readDigits_iff
  · have plain : ∀ rest, cs = '+' :: rest → False := fun rest same => sign ⟨rest, same⟩
    have only : Numeral cs n ↔ Digits cs n := by
      refine ⟨fun numeral => ?_, .plain⟩
      cases numeral with
      | signed digits => exact absurd rfl (plain _)
      | plain digits => exact digits
    rw [only, readUnsigned?]
    · exact readDigits_iff
    · exact plain

theorem digits_render (n : Nat) : Digits (render 10 n) n := by
  obtain ⟨ds, some, -, small, worth, shown⟩ := render_digits (by decide : 2 ≤ 10) n
  exact digits_iff.mpr ⟨ds, some, small, shown, worth⟩

end Number

namespace FormatVersion
open Number Text

inductive Spells : List Char → FormatVersion → Prop where
  | release {cs : List Char} {n : Nat} (numeral : Numeral cs n) (known : 1 ≤ n ∧ n ≤ 99) :
      Spells cs ⟨44 + n, 0⟩
  | early {cs : List Char} {n : Nat} (numeral : Numeral cs n) (known : 1 ≤ n ∧ n ≤ 99) :
      Spells ('1' :: '.' :: cs) ⟨44 + n, 0⟩
  | pair {before after : List Char} {major minor : Nat} (first : Numeral before major)
      (second : Numeral after minor) (notEarly : before ≠ ['1'])
      (stored : 45 ≤ major ∧ major ≤ 65535 ∧ minor ≤ 65535) :
      Spells (before ++ '.' :: after) ⟨major, minor⟩

theorem ofRelease_eq_ok_iff {n : Nat} {v : FormatVersion} :
    ofRelease n = .ok v ↔ (1 ≤ n ∧ n ≤ 99) ∧ v = ⟨44 + n, 0⟩ := by
  unfold ofRelease
  split
  · constructor
    · intro refused
      cases refused
    · intro known
      omega
  · rw [Except.ok.injEq, base]
    constructor
    · intro same
      exact ⟨by omega, same.symm⟩
    · intro known
      exact known.2.symm

theorem readRelease_eq_ok_iff {text : String} {cs : List Char} {v : FormatVersion} :
    readRelease text cs = .ok v ↔ ∃ n, Numeral cs n ∧ (1 ≤ n ∧ n ≤ 99) ∧ v = ⟨44 + n, 0⟩ := by
  unfold readRelease
  constructor
  · intro read
    split at read
    · rename_i n found
      exact ⟨n, (readUnsigned?_eq_some_iff.mp found).1, ofRelease_eq_ok_iff.mp read⟩
    · cases read
  · intro ⟨n, numeral, known, same⟩
    have found : readUnsigned? 10 limit cs = some n :=
      readUnsigned?_eq_some_iff.mpr ⟨numeral, by unfold limit; omega⟩
    rw [found]
    exact ofRelease_eq_ok_iff.mpr ⟨known, same⟩

theorem parse_of_pointless {text : String} (pointless : '.' ∉ trim text.toList) :
    parse text = readRelease text (trim text.toList) := by
  rw [parse, cutFirst_eq_none_iff.mpr pointless]

theorem parse_of_early {text : String} {cs : List Char}
    (cut : trim text.toList = '1' :: '.' :: cs) : parse text = readRelease text cs := by
  have first : cutFirst '.' (trim text.toList) = some (['1'], cs) :=
    cutFirst_eq_some_iff.mpr ⟨cut, by decide⟩
  rw [parse, first]
  rfl

theorem parse_of_pair {text : String} {before after : List Char}
    (cut : trim text.toList = before ++ '.' :: after) (pointless : '.' ∉ before)
    (notEarly : before ≠ ['1']) (v : FormatVersion) :
    parse text = .ok v ↔ ∃ major minor, Numeral before major ∧ Numeral after minor ∧
      (45 ≤ major ∧ major ≤ 65535 ∧ minor ≤ 65535) ∧ v = ⟨major, minor⟩ := by
  have first : cutFirst '.' (trim text.toList) = some (before, after) :=
    cutFirst_eq_some_iff.mpr ⟨cut, pointless⟩
  rw [parse, first]
  split
  · rename_i none
    cases none
  · rename_i after' early
    cases early
    exact absurd rfl notEarly
  · rename_i before' after' notEarly' same
    cases same
    constructor
    · intro read
      split at read
      · rename_i major minor majorRead minorRead
        obtain ⟨majorNumeral, majorFits⟩ := readUnsigned?_eq_some_iff.mp majorRead
        obtain ⟨minorNumeral, minorFits⟩ := readUnsigned?_eq_some_iff.mp minorRead
        split at read
        · cases read
        · rename_i beyond
          unfold limit at majorFits minorFits
          unfold base at beyond
          exact ⟨major, minor, majorNumeral, minorNumeral, by omega, (Except.ok.inj read).symm⟩
      · cases read
    · intro ⟨major, minor, majorNumeral, minorNumeral, stored, same⟩
      have majorRead : readUnsigned? 10 limit before = some major :=
        readUnsigned?_eq_some_iff.mpr ⟨majorNumeral, by unfold limit; omega⟩
      have minorRead : readUnsigned? 10 limit after = some minor :=
        readUnsigned?_eq_some_iff.mpr ⟨minorNumeral, by unfold limit; omega⟩
      have beyond : ¬major ≤ base := by
        unfold base
        omega
      rw [majorRead, minorRead, same]
      exact if_neg beyond

/-- A text is read as what it spells. The spellings have to be told apart at the first point. -/
theorem parse_eq_ok_iff (text : String) (v : FormatVersion) :
    parse text = .ok v ↔ Spells (trim text.toList) v := by
  constructor
  · intro read
    cases cut : cutFirst '.' (trim text.toList) with
    | none =>
      rw [parse_of_pointless (cutFirst_eq_none_iff.mp cut), readRelease_eq_ok_iff] at read
      obtain ⟨n, numeral, known, rfl⟩ := read
      exact .release numeral known
    | some parts =>
      obtain ⟨before, after⟩ := parts
      obtain ⟨whole, pointless⟩ := cutFirst_eq_some_iff.mp cut
      by_cases early : before = ['1']
      · rw [early] at whole
        rw [parse_of_early whole, readRelease_eq_ok_iff] at read
        obtain ⟨n, numeral, known, rfl⟩ := read
        exact whole ▸ .early numeral known
      · rw [parse_of_pair whole pointless early] at read
        obtain ⟨major, minor, first, second, stored, rfl⟩ := read
        exact whole ▸ .pair first second early stored
  · intro spelled
    generalize cut : trim text.toList = cs at spelled
    cases spelled with
    | release numeral known =>
      rw [parse_of_pointless (cut ▸ pointless_numeral numeral), cut]
      exact readRelease_eq_ok_iff.mpr ⟨_, numeral, known, rfl⟩
    | early numeral known =>
      rw [parse_of_early cut]
      exact readRelease_eq_ok_iff.mpr ⟨_, numeral, known, rfl⟩
    | pair first second notEarly stored =>
      rw [parse_of_pair cut (pointless_numeral first) notEarly]
      exact ⟨_, _, first, second, stored, rfl⟩

theorem spelled_fits {cs : List Char} {v : FormatVersion} (spelled : Spells cs v) :
    45 ≤ v.major ∧ v.major ≤ 65535 ∧ v.minor ≤ 65535 := by
  cases spelled with
  | release numeral known => exact ⟨by simp; omega, by simp; omega, by simp⟩
  | early numeral known => exact ⟨by simp; omega, by simp; omega, by simp⟩
  | pair first second notEarly stored => exact stored

theorem pair_toList (v : FormatVersion) :
    v.pair.toList = Number.render 10 v.major ++ '.' :: Number.render 10 v.minor := by
  simp [pair, decimal]

theorem pair_unblank (v : FormatVersion) : ∀ c ∈ v.pair.toList, isBlank c = false := by
  have unblank : ∀ d < 10, isBlank (digitChar d) = false := by decide
  have number : ∀ n, ∀ c ∈ Number.render 10 n, isBlank c = false := by
    intro n c member
    obtain ⟨d, small, same⟩ := mem_digits (digits_render n) c member
    rw [same]
    exact unblank d small
  intro c member
  rw [pair_toList, List.mem_append, List.mem_cons] at member
  rcases member with first | point | second
  · exact number v.major c first
  · rw [point]
    decide
  · exact number v.minor c second

theorem parse_pair {v : FormatVersion} (least : 45 ≤ v.major) (most : v.major ≤ 65535)
    (fits : v.minor ≤ 65535) : parse v.pair = .ok v := by
  have notEarly : Number.render 10 v.major ≠ ['1'] := by
    intro early
    have read : readUnsigned? 10 65535 (Number.render 10 v.major) = some v.major :=
      readUnsigned?_render (by decide) (by decide) most
    have one : readUnsigned? 10 65535 ['1'] = some 1 := by decide
    rw [early, one] at read
    have same : 1 = v.major := Option.some.inj read
    omega
  rw [parse_eq_ok_iff, trim_of_unblank (pair_unblank v), pair_toList]
  exact .pair (.plain (digits_render v.major)) (.plain (digits_render v.minor)) notEarly
    ⟨least, most, fits⟩

/-- A text is read exactly if it spells a version, and then as that version, the numbers of which
can be stored; so can every sum that makes a release a major number. -/
theorem parsed_as_spelled (text : String) :
    (∀ v, parse text = .ok v ↔ Spells (trim text.toList) v) ∧
      (∀ v, parse text = .ok v →
        45 ≤ v.major ∧ v.major ≤ 65535 ∧ v.minor ≤ 65535 ∧
          v.release = v.major - 44 ∧ 1 ≤ v.release ∧ parse v.pair = .ok v) ∧
      ∀ n v, ofRelease n = .ok v → v.major = 44 + n ∧ 44 + n ≤ 65535 := by
  refine ⟨parse_eq_ok_iff text, ?_, ?_⟩
  · intro v read
    obtain ⟨least, most, fits⟩ := spelled_fits ((parse_eq_ok_iff text v).mp read)
    have release : v.release = v.major - 44 := rfl
    exact ⟨least, most, fits, release, by omega, parse_pair least most fits⟩
  · intro n v known
    obtain ⟨⟨_, small⟩, rfl⟩ := ofRelease_eq_ok_iff.mp known
    exact ⟨rfl, by omega⟩

end FormatVersion
end ClassForge
