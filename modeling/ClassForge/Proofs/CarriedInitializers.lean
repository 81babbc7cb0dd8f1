import ClassForge.Plan
import ClassForge.Proofs.NumberTexts
import ClassForge.Rehearsal.Builder
import Mathlib.Data.List.Induction
import Mathlib.Data.List.Nodup

/-!
The initializers of a made artifact. To set the initializer of a type overwrites the one it has, so
each registration is for an auxiliary type of its own. None is lost: the numbered names differ from
each other and from the target, whatever that is called.
-/
namespace ClassForge

namespace Artifact

def auxiliary (target : TypeName) (mark : String) (i : Nat) : TypeName :=
  ⟨target.name ++ mark ++ Number.decimal i⟩

theorem auxiliary_injective {target : TypeName} {mark : String} :
    ∀ i j, auxiliary target mark i = auxiliary target mark j → i = j := by
  intro i j same
  have texts : (auxiliary target mark i).name.toList = (auxiliary target mark j).name.toList := by
    rw [same]
  simp only [auxiliary, Number.decimal, String.toList_append, String.toList_ofList,
    List.append_cancel_left_eq] at texts
  exact Number.render_injective (by decide) (by decide) i j texts

/-- A number has a digit at least, so the auxiliary name is the longer one, even with no mark. -/
theorem auxiliary_ne (target : TypeName) (mark : String) (i : Nat) :
    auxiliary target mark i ≠ target := by
  intro same
  obtain ⟨ds, filled, -, -, -, shown⟩ := @Number.render_digits 10 (by decide) i
  have digits : 0 < ds.length := List.length_pos_iff.mpr filled
  have lengths : (auxiliary target mark i).name.toList.length = target.name.toList.length := by
    rw [same]
  simp only [auxiliary, Number.decimal, shown, String.toList_append, String.toList_ofList,
    List.length_append, List.length_map] at lengths
  omega

theorem setInitializer_fresh {target : TypeName} (init : Initializer)
    {inits : List (TypeName × Initializer)} (fresh : target ∉ inits.map (·.1)) :
    setInitializer target init inits = inits ++ [(target, init)] := by
  induction inits with
  | nil => rfl
  | cons first rest ih =>
    rw [List.map_cons, List.mem_cons, not_or] at fresh
    rw [setInitializer, if_neg (Ne.symm fresh.1), ih fresh.2, List.cons_append]

def withInitializers (a : Artifact) (registrations : List (TypeName × Initializer)) : Artifact :=
  registrations.foldl (fun made (target, init) => made.withInitializer target init) a

theorem withInitializers_concat (a : Artifact) (registrations : List (TypeName × Initializer))
    (t : TypeName) (i : Initializer) : a.withInitializers (registrations ++ [(t, i)]) =
      (a.withInitializers registrations).withInitializer t i :=
  List.foldl_concat ..

theorem withInitializers_fresh (a : Artifact) {registrations : List (TypeName × Initializer)}
    (distinct : ((a.initializers ++ registrations).map (·.1)).Nodup) :
    a.withInitializers registrations =
      { a with initializers := a.initializers ++ registrations } := by
  induction registrations using List.reverseRecOn with
  | nil =>
    rw [List.append_nil]
    rfl
  | append_singleton earlier last ih =>
    rw [← List.append_assoc, List.map_append, List.map_singleton, ← List.concat_eq_append,
      List.nodup_concat] at distinct
    obtain ⟨fresh, apart⟩ := distinct
    rw [withInitializers_concat, ih apart, withInitializer, setInitializer_fresh _ fresh,
      List.append_assoc]

def numbered (key : Nat → TypeName) (first : Nat) (descriptions : List String) :
    List (TypeName × Initializer) :=
  (descriptions.zipIdx first).map fun (d, i) => (key i, .live d)

theorem numbered_keys (key : Nat → TypeName) (first : Nat) (descriptions : List String) :
    (numbered key first descriptions).map (·.1) =
      (List.range' first descriptions.length).map key := by
  rw [numbered, ← List.zipIdx_map_snd, List.map_map, List.map_map]
  rfl

theorem withLiveInitializers_eq (a : Artifact) (mark : String) (descriptions : List String) :
    a.withLiveInitializers mark descriptions =
      a.withInitializers (numbered (auxiliary a.type mark) 0 descriptions) := by
  rw [withInitializers, numbered, List.foldl_map]
  rfl

theorem numbered_distinct (target : TypeName) (mark : String) (descriptions : List String) :
    (((target, Initializer.dormant) :: numbered (auxiliary target mark) 0 descriptions).map
      (·.1)).Nodup := by
  rw [List.map_cons, numbered_keys, List.nodup_cons]
  constructor
  · intro taken
    obtain ⟨i, -, same⟩ := List.mem_map.mp taken
    exact auxiliary_ne target mark i same
  · exact List.Nodup.map (fun i j => auxiliary_injective i j) List.nodup_range'

theorem ofBytes_withLiveInitializers (target : TypeName) (bytes : Bytes) (mark : String)
    (descriptions : List String) :
    (ofBytes target bytes).withLiveInitializers mark descriptions =
      ⟨target, bytes,
        (target, .dormant) :: numbered (auxiliary target mark) 0 descriptions⟩ := by
  rw [withLiveInitializers_eq]
  exact withInitializers_fresh _ (numbered_distinct target mark descriptions)

/-- The artifact has the target's own initializer, with nothing to run, and behind it a live one for
each registration, in order, and for a type of its own. -/
structure Carries (a : Artifact) (target : TypeName) (mark : String)
    (descriptions : List String) : Prop where
  inOrder : a.initializers =
    (target, .dormant) :: descriptions.mapIdx fun i d => (auxiliary target mark i, .live d)
  count : a.initializers.length = descriptions.length + 1
  distinct : (a.initializers.map (·.1)).Nodup
  alive_iff : a.liveInitializer?.isSome = true ↔ 0 < descriptions.length
  firstAlive : a.liveInitializer? =
    descriptions.head?.map fun d => (auxiliary target mark 0, .live d)

theorem ofBytes_carries (target : TypeName) (bytes : Bytes) (mark : String)
    (descriptions : List String) :
    ((ofBytes target bytes).withLiveInitializers mark descriptions).Carries target mark
      descriptions := by
  rw [ofBytes_withLiveInitializers]
  have first : liveInitializer? ⟨target, bytes,
      (target, .dormant) :: numbered (auxiliary target mark) 0 descriptions⟩ =
        descriptions.head?.map fun d => (auxiliary target mark 0, .live d) := by
    cases descriptions <;> rfl
  constructor
  · rw [numbered, List.mapIdx_eq_zipIdx_map]
  · simp [numbered]
  · exact numbered_distinct target mark descriptions
  · rw [first]
    cases descriptions <;> simp
  · exact first

end Artifact

/-- However often and under whatever names live initializers are registered, the artifact that is
made carries each of them. Making a plan always succeeds, and recording fails as it was told to. -/
theorem registrations_carried (b : PlanBuilder) (r : Rehearsal.Recorder) :
    (∃ a, Builder.make b = .ok a ∧
      a.Carries b.target "$SmeltInitializer" (b.live.map ("initializer registered by " ++ ·))) ∧
    match r.failure with
    | some message => Builder.make r = .error (.make r.target.name message)
    | none => ∃ a, Builder.make r = .ok a ∧ a.Carries r.target "$Initializer" r.live := by
  constructor
  · exact ⟨b.artifact, rfl, Artifact.ofBytes_carries b.target _ _ _⟩
  · cases asked : r.failure with
    | some message =>
      show r.make = .error (.make r.target.name message)
      rw [Rehearsal.Recorder.make, asked]
    | none =>
      have made : r.make = .ok ((Artifact.ofBytes r.target
          (Text.Utf8.encode (String.intercalate "\n" r.applied))).withLiveInitializers
            "$Initializer" r.live) := by
        rw [Rehearsal.Recorder.make, asked]
      exact ⟨_, made, Artifact.ofBytes_carries r.target _ _ _⟩

end ClassForge
