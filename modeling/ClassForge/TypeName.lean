import ClassForge.Text.Cut

/-!
Binary names of types, such as `com.example.Foo`. A type is identified by its name alone. The
internal form has `/` for `.`, and the class file of a type is stored under the internal form
followed by `.class`.
-/
namespace ClassForge

structure TypeName where
  name : String
  deriving DecidableEq, Repr, Inhabited

namespace TypeName
open Text

private def swap (old new : Char) (s : String) : String :=
  String.ofList (s.toList.map fun c => if c = old then new else c)

def ofInternal (internal : String) : TypeName := ⟨swap '/' '.' internal⟩

def internal (t : TypeName) : String := swap '.' '/' t.name

def entryName (t : TypeName) : String := t.internal ++ ".class"

theorem eq_of_toList {t t' : TypeName} (same : t.name.toList = t'.name.toList) : t = t' :=
  congrArg mk (String.toList_inj.mp same)

theorem ofInternal_toList (internal : String) : (ofInternal internal).name.toList =
    internal.toList.map fun c => if c = '/' then '.' else c := String.toList_ofList

theorem internal_toList (t : TypeName) :
    t.internal.toList = t.name.toList.map fun c => if c = '.' then '/' else c :=
  String.toList_ofList

theorem entryName_toList (t : TypeName) :
    t.entryName.toList =
      (t.name.toList.map fun c => if c = '.' then '/' else c) ++ ".class".toList := by
  rw [entryName, internal, swap, String.toList_append, String.toList_ofList]

/-- What stands before the last dot; a name without one is in the default package. -/
def package? (t : TypeName) : Option String :=
  (cutLast '.' t.name.toList).map fun (before, _) => String.ofList before

def simpleName (t : TypeName) : String :=
  match cutLast '.' t.name.toList with
  | some (_, after) => String.ofList after
  | none => t.name

end TypeName

theorem mergeSort_ascends {α : Type} (name : α → String) (xs : List α) :
    (xs.mergeSort fun a b => !(name b < name a)).Pairwise fun a b => ¬name b < name a := by
  refine (List.pairwise_mergeSort (fun a b c ab bc => ?_) (fun a b => ?_) xs).imp
    fun le => by simpa only [Bool.not_eq_true', decide_eq_false_iff_not] using le
  · simp only [Bool.not_eq_true', decide_eq_false_iff_not] at ab bc ⊢
    exact Std.not_lt.mpr (Std.le_trans (Std.not_lt.mp ab) (Std.not_lt.mp bc))
  · simp only [Bool.or_eq_true, Bool.not_eq_true', decide_eq_false_iff_not]
    exact Std.le_total.imp Std.not_lt.mpr Std.not_lt.mpr

/-- Names sort by their characters' code points, which is also the order of their UTF-8 bytes. -/
def sortNames (names : List String) : List String := names.mergeSort fun a b => !(b < a)

theorem eraseDups_concat (names : List String) (name : String) :
    (names ++ [name]).eraseDups =
      if name ∈ names then names.eraseDups else names.eraseDups ++ [name] := by
  rw [List.eraseDups_append, List.removeAll]
  by_cases known : name ∈ names <;> simp [known, List.eraseDups_cons]

end ClassForge
