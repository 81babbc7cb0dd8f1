import ClassForge.Proofs.ClassEntries

/-!
Names that begin in one of the ways to skip. A way to skip is held, as it is written, against the
relative name. Where it begins with a lead itself, no name is skipped on its account, not even one
that is written like it.
-/
namespace ClassForge.TypePool

theorem unled_extended {start cs : List Char} (unled : Unled start) (given : start ≠ [])
    (whole : start ≠ ['.']) (begins : start <+: cs) : Unled cs := by
  intro l led
  rcases List.prefix_or_prefix_of_prefix led begins with within | short
  · exact unled l within
  · cases l with
    | here =>
      rcases List.prefix_cons_iff.mp short with rfl | ⟨tail, rfl, rest⟩
      · exact given rfl
      · rcases List.prefix_cons_iff.mp rest with rfl | ⟨tail, rfl, rest⟩
        · exact whole rfl
        · exact unled .here ⟨tail, rfl⟩
    | root =>
      rcases List.prefix_cons_iff.mp short with rfl | ⟨tail, rfl, rest⟩
      · exact given rfl
      · exact unled .root ⟨tail, rfl⟩

theorem unled_front {start cs : List Char} (begins : start <+: cs) (unled : Unled cs) :
    Unled start := fun l led => unled l (led.trans begins)

theorem kept_in_front_iff (start : List Char) :
    (∀ cs, start <+: cs → start <+: relative cs) ↔ Unled start ∧ start ≠ ['.'] := by
  constructor
  · intro kept
    refine ⟨unled_front (kept start List.prefix_rfl) (unled_relative start), ?_⟩
    rintro rfl
    -- A dot alone is no lead, but a slash may follow it.
    have inFront := kept ['.', '/'] ⟨['/'], rfl⟩
    simp [relative] at inFront
  · rintro ⟨unled, whole⟩ cs begins
    by_cases given : start = []
    · exact given ▸ List.nil_prefix
    · rwa [relative_of_unled (unled_extended unled given whole begins)]

theorem classFile_alike {skip skip' : List String} {name : String}
    (same : ∀ start : String, start.toList <+: relative name.toList →
      (start ∈ skip ↔ start ∈ skip')) : classFile skip name = classFile skip' name := by
  have skipped : ((metadata :: skip).any fun start =>
      start.toList.isPrefixOf (relative name.toList)) = ((metadata :: skip').any fun start =>
      start.toList.isPrefixOf (relative name.toList)) := by
    rw [Bool.eq_iff_iff, List.any_eq_true, List.any_eq_true]
    simp only [List.mem_cons, List.isPrefixOf_iff_prefix]
    constructor
    · rintro ⟨start, listed, begins⟩
      exact ⟨start, listed.imp_right (same start begins).mp, begins⟩
    · rintro ⟨start, listed, begins⟩
      exact ⟨start, listed.imp_right (same start begins).mpr, begins⟩
  simp only [classFile, skipped]

/-- What a way to skip does to names that begin with it. -/
structure Skips (skip : List String) (start : String) : Prop where
  relative : ∀ name : String, start.toList <+: relative name.toList →
    ((classFiles skip).describe name ()).1.type? = none
  stored : Unled start.toList → start ≠ "." → ∀ name : String, start.toList <+: name.toList →
    ((classFiles skip).describe name ()).1.type? = none
  /-- Of any other, there is a name that begins with it only as it is stored. -/
  stored_iff : (∀ name : String, start.toList <+: name.toList →
      start.toList <+: TypePool.relative name.toList) ↔ Unled start.toList ∧ start ≠ "."
  /-- One that begins with a lead might as well not be there. -/
  led : ¬Unled start.toList → ∀ name, (classFiles skip).describe name () =
    (classFiles (skip.filter (· ≠ start))).describe name ()

/-- A way to skip holds for all relative names that begin with it. For names as they are stored it
holds if it begins with no lead, and is not the half of one. -/
theorem listed_starts_skip (skip : List String) (start : String) (listed : start ∈ skip) :
    Skips skip start := by
  have half : start ≠ "." ↔ start.toList ≠ ['.'] := by
    rw [Ne, Ne, ← String.toList_inj]
    rfl
  have behind : ∀ name : String, start.toList <+: relative name.toList →
      classFile skip name = none :=
    fun name begins => classFile_skipped (List.mem_cons_of_mem _ listed) begins
  constructor
  case relative => exact behind
  case stored =>
    intro unled whole name begins
    exact behind name ((kept_in_front_iff start.toList).mpr ⟨unled, half.mp whole⟩ _ begins)
  case stored_iff =>
    rw [half, ← kept_in_front_iff]
    constructor
    · intro kept cs begins
      simpa using kept (String.ofList cs) (by simpa using begins)
    · exact fun kept name => kept name.toList
  case led =>
    intro led name
    have same : classFile skip name = classFile (skip.filter (· ≠ start)) name := by
      refine classFile_alike fun other begins => ?_
      have different : other ≠ start := by
        rintro rfl
        exact led (unled_front begins (unled_relative name.toList))
      simp [different]
    simp only [classFiles, ofFunction, same]

/-- A library is skipped under a led name too; a way to skip that is itself led is idle. -/
theorem listed_starts_skip_shaded :
    let resolved := fun skip name => ((classFiles skip).describe name ()).1.type?
    resolved ["shaded/", "./vendored/"] "./shaded/Util.class" = none ∧
      resolved ["shaded/", "./vendored/"] "./vendored/Util.class" =
        resolved ["shaded/"] "./vendored/Util.class" := by
  intro resolved
  have first := listed_starts_skip ["shaded/", "./vendored/"] "shaded/" (by simp)
  have second := listed_starts_skip ["shaded/", "./vendored/"] "./vendored/" (by simp)
  refine ⟨first.relative "./shaded/Util.class" (by decide), ?_⟩
  have led : ¬Unled "./vendored/".toList := fun unled => unled .here ⟨"vendored/".toList, rfl⟩
  exact congrArg (·.1.type?) (second.led led "./vendored/Util.class")

/-- An entry whose name begins in a way to skip, as it is written, may hold a type all the same. -/
theorem led_start_skips_nothing :
    ¬ ∀ (skip : List String) (start name : String), start ∈ skip →
      start.toList <+: name.toList ∨ start.toList <+: relative name.toList →
        ((classFiles skip).describe name ()).1.type? = none := by
  intro skipped
  have resolved : ((classFiles ["./shaded/"]).describe "./shaded/Util.class" ()).1.type? =
      some ⟨"shaded.Util"⟩ := by decide
  have none := skipped ["./shaded/"] "./shaded/" "./shaded/Util.class" (by simp) (.inl (by decide))
  rw [resolved] at none
  cases none

end ClassForge.TypePool
