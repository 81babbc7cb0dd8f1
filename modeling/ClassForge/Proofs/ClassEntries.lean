import ClassForge.Proofs.RelativeNames
import Mathlib.Data.List.Basic

/-!
Which entries hold types. An entry does if its relative name is the path of a class file, begins in
none of the ways to skip, and is not that of a module's or a package's descriptor. What stands in
front of the relative name makes no difference, neither to a name nor to a way to skip.
-/
namespace ClassForge.TypePool

structure Cut (path directory simple : List Char) : Prop where
  whole : path = directory ++ simple
  within : directory = [] ∨ directory.getLast? = some '/'
  undivided : '/' ∉ simple

theorem cut_lastName (path : List Char) : ∃ directory, Cut path directory (lastName path) := by
  rw [lastName]
  cases cut : Text.cutLast '/' path with
  | none => exact ⟨[], rfl, .inl rfl, Text.cutLast_eq_none_iff.mp cut⟩
  | some both =>
    obtain ⟨whole, undivided⟩ := Text.cutLast_eq_some_iff.mp cut
    exact ⟨both.1 ++ ['/'], by simp [whole], .inr (by simp), undivided⟩

theorem Cut.simple_eq {path directory simple : List Char} (cut : Cut path directory simple) :
    simple = lastName path := by
  obtain ⟨rfl, within, undivided⟩ := cut
  rcases within with rfl | ended
  · rw [lastName, List.nil_append, Text.cutLast_eq_none_iff.mpr undivided]
  · obtain ⟨before, rfl⟩ := List.getLast?_eq_some_iff.mp ended
    have last : Text.cutLast '/' (before ++ ['/'] ++ simple) = some (before, simple) :=
      Text.cutLast_eq_some_iff.mpr ⟨by simp, undivided⟩
    rw [lastName, last]

/-- The relative name of a class file, in a directory and under a simple name, and its type. -/
structure ClassEntry (skip : List String) (path directory simple : List Char) (t : TypeName) :
    Prop where
  unskipped : ∀ start ∈ "META-INF/" :: skip, ¬start.toList <+: path
  whole : path = directory ++ simple ++ ".class".toList
  within : directory = [] ∨ directory.getLast? = some '/'
  undivided : '/' ∉ simple
  typed : simple ∉ [[], "module-info".toList, "package-info".toList]
  named : t.name.toList = (directory ++ simple).map fun c => if c = '/' then '.' else c

theorem classFile_congr {skip : List String} {name name' : String}
    (same : relative name.toList = relative name'.toList) :
    classFile skip name = classFile skip name' := by
  rw [classFile, classFile, same]

theorem classFile_skipped {skip : List String} {name : String} {start : String}
    (listed : start ∈ metadata :: skip) (begins : start.toList <+: relative name.toList) :
    classFile skip name = none :=
  if_pos (List.any_eq_true.mpr ⟨start, listed, List.isPrefixOf_iff_prefix.mpr begins⟩)

theorem classFile_unsuffixed {skip : List String} {name : String}
    (other : ¬".class".toList <:+ relative name.toList) : classFile skip name = none := by
  simp only [classFile]
  split
  · rfl
  · split
    · rfl
    · rename_i found
      have whole := List.isPrefixOf?_eq_some_iff_append_eq.mp found
      exact absurd (List.reverse_prefix.mp ⟨_, whole⟩) other

theorem classFile_suffixed {skip : List String} {name : String} {internal : List Char}
    (unskipped : ∀ start ∈ metadata :: skip, ¬start.toList <+: relative name.toList)
    (whole : relative name.toList = internal ++ ".class".toList) :
    classFile skip name =
      if lastName internal ∈ [[], "module-info".toList, "package-info".toList] then none
      else some (TypeName.ofInternal (String.ofList internal)) := by
  have kept : ¬((metadata :: skip).any fun start =>
      start.toList.isPrefixOf (relative name.toList)) = true := by
    simpa [List.any_eq_true, List.isPrefixOf_iff_prefix] using unskipped
  have found : classSuffix.toList.reverse.isPrefixOf? (relative name.toList).reverse =
      some internal.reverse := by
    rw [List.isPrefixOf?_eq_some_iff_append_eq, whole, List.reverse_append, classSuffix]
  have untyped : (String.ofList (lastName internal) == "" ||
      String.ofList (lastName internal) == "module-info" ||
      String.ofList (lastName internal) == "package-info") = true ↔
        lastName internal ∈ [[], "module-info".toList, "package-info".toList] := by
    simp only [Bool.or_eq_true, beq_iff_eq, ← String.toList_inj, String.toList_ofList,
      List.mem_cons, List.not_mem_nil, or_false, or_assoc, String.toList_empty]
  simp only [classFile, if_neg kept, found, List.reverse_reverse, untyped]

theorem classFile_eq_some_iff {skip : List String} {name : String} {t : TypeName} :
    classFile skip name = some t ↔
      ∃ directory simple, ClassEntry skip (relative name.toList) directory simple t := by
  by_cases skipped : ∃ start ∈ metadata :: skip, start.toList <+: relative name.toList
  · obtain ⟨start, listed, begins⟩ := skipped
    rw [classFile_skipped listed begins]
    exact iff_of_false nofun fun ⟨_, _, entry⟩ => entry.unskipped start listed begins
  have unskipped : ∀ start ∈ metadata :: skip, ¬start.toList <+: relative name.toList :=
    fun start listed begins => skipped ⟨start, listed, begins⟩
  by_cases suffixed : ".class".toList <:+ relative name.toList
  · obtain ⟨internal, whole⟩ := suffixed
    rw [classFile_suffixed unskipped whole.symm]
    constructor
    · intro resolved
      obtain ⟨directory, cut⟩ := cut_lastName internal
      split at resolved
      · cases resolved
      rename_i typed
      obtain rfl := Option.some.inj resolved
      refine ⟨directory, lastName internal, unskipped, ?_, cut.within, cut.undivided, typed, ?_⟩
      · rw [← whole, ← cut.whole]
      · rw [TypeName.ofInternal_toList, String.toList_ofList, ← cut.whole]
    · rintro ⟨directory, simple, entry⟩
      obtain rfl : internal = directory ++ simple :=
        List.append_cancel_right (whole.trans entry.whole)
      have last : simple = lastName (directory ++ simple) :=
        Cut.simple_eq ⟨rfl, entry.within, entry.undivided⟩
      rw [← last, if_neg entry.typed]
      refine congrArg some (TypeName.eq_of_toList ?_)
      rw [TypeName.ofInternal_toList, String.toList_ofList, entry.named]
  · rw [classFile_unsuffixed suffixed]
    refine iff_of_false nofun fun ⟨directory, simple, entry⟩ => suffixed ?_
    exact entry.whole ▸ List.suffix_append _ _

abbrev Resolves (skip : List String) (name : String) (t : TypeName) : Prop :=
  ((classFiles skip).describe name ()).1.type? = some t

theorem resolves_iff {skip : List String} {name : String} {t : TypeName} :
    Resolves skip name t ↔
      ∃ directory simple, ClassEntry skip (relative name.toList) directory simple t :=
  classFile_eq_some_iff

/-- How a name is read: as leads and a rest, and the rest as the path of a class file. -/
structure ReadsAs (skip : List String) (name : String) (leads : List Lead) (rest : List Char) :
    Prop where
  led : Led name.toList leads rest
  only : ∀ leads' rest', Led name.toList leads' rest' → leads' = leads ∧ rest' = rest
  longest : ∀ leads' rest', name.toList = leading leads' ++ rest' → leads' <+: leads
  resolves_iff : ∀ t, Resolves skip name t ↔
    ∃ directory simple, ClassEntry skip rest directory simple t

/-- The type that a name holds is that of the class file which stands behind its leads, so that more
leads make no difference. -/
theorem class_files_behind_leads (skip : List String) (name : String) :
    (∃ leads rest, ReadsAs skip name leads rest) ∧
      ∀ leads, (classFiles skip).describe (String.ofList (leading leads) ++ name) () =
        (classFiles skip).describe name () := by
  constructor
  · obtain ⟨leads, led⟩ := led_relative name.toList
    refine ⟨leads, relative name.toList, ?_⟩
    constructor
    case led => exact led
    case only => exact fun leads' rest' led' => led.unique led'
    case longest => exact fun leads' rest' => led.longest
    case resolves_iff => exact fun t => TypePool.resolves_iff
  · intro leads
    have behind : relative (String.ofList (leading leads) ++ name).toList =
        relative name.toList := by
      rw [String.toList_append, String.toList_ofList, relative_leading]
    have same : classFile skip (String.ofList (leading leads) ++ name) = classFile skip name :=
      classFile_congr behind
    simp only [classFiles, ofFunction, same]

end ClassForge.TypePool
