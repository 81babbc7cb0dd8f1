import ClassForge.Text.Cut
import ClassForge.Text.Utf8
import Mathlib.Data.List.Infix

/-!
The lines of a text. A text is its first line, a line break of one or two characters and what is
behind it, so that what holds of lines is proved line after line. Cuts around a piece of text are
made at its first occurrence.
-/
namespace ClassForge.Text

namespace Utf8

@[simp] theorem size_nil : size [] = 0 := rfl

@[simp] theorem size_cons (c : Char) (cs : List Char) : size (c :: cs) = c.utf8Size + size cs := rfl

@[simp] theorem size_append (cs ds : List Char) : size (cs ++ ds) = size cs + size ds := by
  induction cs with
  | nil => simp
  | cons c cs ih => rw [List.cons_append, size_cons, size_cons, ih, Nat.add_assoc]

theorem size_ofList (cs : List Char) : (String.ofList cs).utf8ByteSize = size cs := by
  induction cs with
  | nil => rfl
  | cons c cs ih =>
    rw [String.ofList_cons, String.utf8ByteSize_append, ih, size_cons, String.utf8ByteSize_singleton]

theorem length_encoded (cs : List Char) :
    (cs.flatMap String.utf8EncodeChar).length = size cs := by
  induction cs with
  | nil => rfl
  | cons c cs ih =>
    rw [List.flatMap_cons, List.length_append, String.length_utf8EncodeChar, ih, size_cons]

theorem size_toList (s : String) : size s.toList = s.utf8ByteSize := by
  rw [← size_ofList, String.ofList_toList]

end Utf8

structure FirstCut (part cs before after : List Char) : Prop where
  whole : cs = before ++ part ++ after
  first : ∀ before' after', cs = before' ++ part ++ after' → before.length ≤ before'.length

theorem around_cuts (part cs : List Char) :
    match around part cs with
    | some (before, after) => FirstCut part cs before after
    | none => ∀ before after, cs ≠ before ++ part ++ after := by
  induction cs with
  | nil =>
    cases part with
    | nil => exact ⟨rfl, fun _ _ _ => Nat.zero_le _⟩
    | cons c part => simp [around]
  | cons c cs ih =>
    rw [around]
    cases starts : part.isPrefixOf? (c :: cs) with
    | some rest =>
      exact ⟨(List.isPrefixOf?_eq_some_iff_append_eq.mp starts).symm, fun _ _ _ => Nat.zero_le _⟩
    | none =>
      -- The part does not stand at the start, so any cut is one of the rest.
      have later : ∀ before after, c :: cs = before ++ part ++ after →
          ∃ before', before = c :: before' ∧ cs = before' ++ part ++ after := by
        intro before after whole
        cases before with
        | nil =>
          have found : part.isPrefixOf? (c :: cs) = some after :=
            List.isPrefixOf?_eq_some_iff_append_eq.mpr whole.symm
          simp [found] at starts
        | cons d before =>
          obtain ⟨rfl, rest⟩ := List.cons.inj whole
          exact ⟨before, rfl, rest⟩
      cases found : around part cs with
      | some cut =>
        obtain ⟨before, after⟩ := cut
        rw [found] at ih
        refine ⟨by simp [ih.whole], fun before' after' whole => ?_⟩
        obtain ⟨shorter, rfl, rest⟩ := later before' after' whole
        exact Nat.succ_le_succ (ih.first shorter after' rest)
      | none =>
        rw [found] at ih
        intro before after whole
        obtain ⟨shorter, rfl, rest⟩ := later before after whole
        exact ih shorter after rest

theorem around_eq_some_iff {part cs before after : List Char} :
    around part cs = some (before, after) ↔ FirstCut part cs before after := by
  have cuts := around_cuts part cs
  constructor
  · intro found
    rwa [found] at cuts
  · intro cut
    cases found : around part cs with
    | none =>
      rw [found] at cuts
      exact absurd cut.whole (cuts before after)
    | some other =>
      obtain ⟨before', after'⟩ := other
      rw [found] at cuts
      have length : before.length = before'.length :=
        Nat.le_antisymm (cut.first _ _ cuts.whole) (cuts.first _ _ cut.whole)
      obtain ⟨same, rfl⟩ := List.append_inj (cuts.whole.symm.trans cut.whole) (by simp [length])
      obtain ⟨rfl, -⟩ := List.append_inj same length.symm
      rfl

def Whole (cs : List Char) : Prop := cs = [] ∨ cs.getLast? = some '\n'

def wideBreaks : List Char → Nat
  | '\r' :: '\n' :: cs => wideBreaks cs + 1
  | _ :: cs => wideBreaks cs
  | [] => 0

inductive Breaks : List Char → List Char → Prop where
  | narrow {line : List Char} (unbroken : '\n' ∉ line) (other : line.getLast? ≠ some '\r') :
      Breaks line ['\n']
  | wide {line : List Char} (unbroken : '\n' ∉ line) : Breaks line ['\r', '\n']

theorem line_induction {motive : List Char → Prop} (last : ∀ line, '\n' ∉ line → motive line)
    (further : ∀ line ending rest, Breaks line ending → motive rest →
      motive (line ++ ending ++ rest)) (cs : List Char) : motive cs := by
  induction length : cs.length using Nat.strongRecOn generalizing cs with
  | ind n ih =>
    by_cases broken : '\n' ∈ cs
    · obtain ⟨before, rest, rfl, unbroken⟩ := List.eq_append_cons_of_mem broken
      have below : motive rest := ih rest.length (by simp at length; omega) rest rfl
      by_cases double : before.getLast? = some '\r'
      · obtain ⟨line, rfl⟩ := List.getLast?_eq_some_iff.mp double
        have single : '\n' ∉ line := fun member => unbroken (List.mem_append_left _ member)
        simpa using further line ['\r', '\n'] rest (.wide single) below
      · simpa using further before ['\n'] rest (.narrow unbroken double) below
    · exact last cs broken

theorem wideBreaks_cons {c : Char} {cs : List Char} (other : c = '\r' → cs.head? ≠ some '\n') :
    wideBreaks (c :: cs) = wideBreaks cs := by
  rw [wideBreaks]
  rintro cs' rfl rfl
  exact other rfl rfl

theorem wideBreaks_append {cs ds : List Char}
    (apart : cs.getLast? = some '\r' → ds.head? ≠ some '\n') :
    wideBreaks (cs ++ ds) = wideBreaks cs + wideBreaks ds := by
  fun_induction wideBreaks cs with
  | case1 cs ih =>
    have later : wideBreaks (cs ++ ds) = wideBreaks cs + wideBreaks ds := by
      cases cs with
      | nil => simp [wideBreaks]
      | cons c cs => exact ih (by simpa using apart)
    rw [List.cons_append, List.cons_append, wideBreaks, later]
    omega
  | case2 c cs other ih =>
    cases cs with
    | nil =>
      rw [List.singleton_append, wideBreaks_cons (by simpa using apart), wideBreaks, Nat.zero_add]
    | cons d cs =>
      rw [List.cons_append, wideBreaks_cons, ih (by simpa using apart)]
      rintro rfl first
      exact other cs rfl (by simpa using first)
  | case3 => simp

theorem wideBreaks_of_unbroken {cs : List Char} (unbroken : '\n' ∉ cs) : wideBreaks cs = 0 := by
  induction cs with
  | nil => rfl
  | cons c cs ih =>
    have later : '\n' ∉ cs := fun member => unbroken (List.mem_cons_of_mem c member)
    rw [wideBreaks_cons fun _ first => later (List.mem_of_mem_head? first), ih later]

theorem wideBreaks_eq_zero {cs : List Char} (unpaired : ¬ ['\r', '\n'] <:+: cs) :
    wideBreaks cs = 0 := by
  induction cs with
  | nil => rfl
  | cons c cs ih =>
    have later : ¬ ['\r', '\n'] <:+: cs := fun inside => unpaired (List.infix_cons inside)
    rw [wideBreaks_cons, ih later]
    rintro rfl first
    obtain ⟨rest, rfl⟩ := List.head?_eq_some_iff.mp first
    exact unpaired ⟨[], rest, rfl⟩

theorem brokenLines_append {before : List Char} (unbroken : '\n' ∉ before) (rest : List Char) :
    brokenLines (before ++ '\n' :: rest) = (before ++ ['\n']) :: brokenLines rest := by
  induction before with
  | nil => rfl
  | cons c before ih =>
    obtain ⟨other, later⟩ : ¬c = '\n' ∧ '\n' ∉ before := by
      simpa [not_or, eq_comm] using unbroken
    rw [List.cons_append, brokenLines, if_neg other, ih later]
    rfl

theorem brokenLines_unbroken {cs : List Char} (unbroken : '\n' ∉ cs) (some : cs ≠ []) :
    brokenLines cs = [cs] := by
  induction cs with
  | nil => exact absurd rfl some
  | cons c cs ih =>
    obtain ⟨other, later⟩ : ¬c = '\n' ∧ '\n' ∉ cs := by simpa [not_or, eq_comm] using unbroken
    cases cs with
    | nil => simp [brokenLines, other]
    | cons d cs => rw [brokenLines, if_neg other, ih later (by simp)]

theorem lines_unbroken {cs : List Char} (unbroken : '\n' ∉ cs) (some : cs ≠ []) :
    lines cs = [cs] := by
  have kept : lineText cs = cs := by
    rw [lineText]
    split
    · rename_i ended
      exact absurd (List.mem_reverse.mp (ended ▸ List.mem_cons_self)) unbroken
    · rename_i ended
      exact absurd (List.mem_reverse.mp (ended ▸ List.mem_cons_self)) unbroken
    · rfl
  rw [lines, brokenLines_unbroken unbroken some, List.map_singleton, kept]

section
variable {line ending : List Char} (breaks : Breaks line ending)
include breaks

theorem Breaks.unbroken : '\n' ∉ line := by
  cases breaks <;> assumption

theorem Breaks.ends : ∃ before, line ++ ending = before ++ ['\n'] ∧ '\n' ∉ before := by
  cases breaks with
  | narrow unbroken => exact ⟨line, rfl, unbroken⟩
  | wide unbroken => exact ⟨line ++ ['\r'], by simp, by simpa using unbroken⟩

theorem Breaks.size_eq : Utf8.size ending = 1 + wideBreaks ending := by
  cases breaks <;> rfl

theorem Breaks.wideBreaks_append (rest : List Char) :
    wideBreaks (line ++ ending ++ rest) = wideBreaks ending + wideBreaks rest := by
  have none := wideBreaks_of_unbroken breaks.unbroken
  cases breaks with
  | narrow _ other =>
    rw [List.append_assoc, Text.wideBreaks_append fun double => absurd double other, none,
      List.singleton_append, wideBreaks_cons (by simp)]
    rfl
  | wide =>
    rw [List.append_assoc, Text.wideBreaks_append (by simp), none]
    simp only [List.cons_append, List.nil_append, wideBreaks]
    omega

theorem Breaks.lines_append (rest : List Char) :
    lines (line ++ ending ++ rest) = line :: lines rest := by
  obtain ⟨before, cut, unbroken⟩ := breaks.ends
  have text : lineText (before ++ ['\n']) = line := by
    rw [← cut]
    cases breaks with
    | narrow _ other =>
      rw [lineText, List.reverse_append, List.reverse_singleton, List.singleton_append]
      split
      · rename_i turned
        rw [List.cons.injEq, List.reverse_eq_cons_iff] at turned
        exact absurd (by simp [turned.2]) other
      · rename_i turned
        rw [← (List.cons.inj turned).2, List.reverse_reverse]
      · rename_i unended
        exact absurd rfl (unended line.reverse)
    | wide => simp [lineText]
  rw [cut, List.append_assoc, List.singleton_append, lines, brokenLines_append unbroken,
    List.map_cons, text]
  rfl

theorem Breaks.whole {further : List Char} (whole : Whole further) :
    Whole (line ++ ending ++ further) := by
  obtain ⟨before, cut, -⟩ := breaks.ends
  rw [cut]
  rcases whole with rfl | last
  · exact .inr (by simp)
  · exact .inr (by rw [List.getLast?_append, last]; rfl)

theorem Breaks.within {word rest : List Char} {sign : Char} (unbroken : '\n' ∉ word ++ [sign])
    (other : sign ≠ '\r') (starts : word ++ [sign] <+: line ++ ending ++ rest) :
    word ++ [sign] <+: line := by
  cases breaks with
  | narrow => exact prefix_of_absent unbroken (by simpa using starts)
  | wide =>
    have early : word ++ [sign] <+: line ++ ['\r'] := prefix_of_absent unbroken (by simpa using starts)
    rcases List.prefix_concat_iff.mp early with same | inside
    · exact absurd (List.append_inj_right' same rfl) (by simpa using other)
    · exact inside

theorem Breaks.begins {passed rest : List Char} (whole : Whole passed) (some : passed ≠ [])
    (starts : passed <+: line ++ ending ++ rest) :
    ∃ further, passed = line ++ ending ++ further ∧ further <+: rest ∧ Whole further := by
  obtain ⟨before, cut, unbroken⟩ := breaks.ends
  have last := whole.resolve_left some
  rcases List.prefix_or_prefix_of_prefix starts (List.prefix_append (line ++ ending) rest) with
    short | ⟨further, rfl⟩
  · rw [cut] at short
    rcases List.prefix_concat_iff.mp short with same | inside
    · exact ⟨[], by rw [cut, same, List.append_nil], List.nil_prefix, .inl rfl⟩
    · exact absurd (inside.subset (List.mem_of_getLast? last)) unbroken
  · refine ⟨further, rfl, (List.prefix_append_right_inj _).mp starts, ?_⟩
    cases further with
    | nil => exact .inl rfl
    | cons c further => exact .inr (by simpa using last)

end

theorem unbroken_of_mem_lines {cs line : List Char} (member : line ∈ lines cs) : '\n' ∉ line := by
  induction cs using line_induction with
  | last only unbroken =>
    by_cases empty : only = []
    · subst empty
      cases member
    · rw [lines_unbroken unbroken empty] at member
      exact List.mem_singleton.mp member ▸ unbroken
  | further first ending rest breaks ih =>
    rw [breaks.lines_append] at member
    rcases List.mem_cons.mp member with rfl | later
    · exact breaks.unbroken
    · exact ih later

theorem infix_of_mem_lines {cs line : List Char} (member : line ∈ lines cs) : line <:+: cs := by
  induction cs using line_induction with
  | last only unbroken =>
    by_cases empty : only = []
    · subst empty
      cases member
    · rw [lines_unbroken unbroken empty] at member
      exact List.mem_singleton.mp member ▸ List.infix_rfl
  | further first ending rest breaks ih =>
    rw [breaks.lines_append] at member
    rcases List.mem_cons.mp member with rfl | later
    · exact ⟨[], ending ++ rest, by simp⟩
    · exact (ih later).trans (List.suffix_append _ _).isInfix

theorem lines_append {cs : List Char} (whole : Whole cs) (ds : List Char) :
    lines (cs ++ ds) = lines cs ++ lines ds := by
  induction cs using line_induction with
  | last only unbroken =>
    obtain rfl : only = [] := whole.resolve_right fun last =>
      unbroken (List.mem_of_getLast? last)
    rfl
  | further first ending rest breaks ih =>
    have wholeRest : Whole rest := by
      cases rest with
      | nil => exact .inl rfl
      | cons c rest => exact .inr (by simpa using whole.resolve_left (by simp))
    rw [List.append_assoc, breaks.lines_append, breaks.lines_append, ih wholeRest, List.cons_append]

theorem whole_append_unbroken (cs : List Char) :
    ∃ before line, cs = before ++ line ∧ Whole before ∧ '\n' ∉ line := by
  induction cs using line_induction with
  | last only unbroken => exact ⟨[], only, rfl, .inl rfl, unbroken⟩
  | further first ending rest breaks ih =>
    obtain ⟨before, line, rfl, whole, unbroken⟩ := ih
    exact ⟨first ++ ending ++ before, line, by simp, breaks.whole whole, unbroken⟩

end ClassForge.Text
