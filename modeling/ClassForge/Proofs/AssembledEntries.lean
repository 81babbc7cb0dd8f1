import ClassForge.Proofs.RegisteredEntries
import ClassForge.Succeeds
import Mathlib.Data.List.Forall2

/-!
Compounds of registered plugins. Names are looked up and made plugins one after the other; the first
that cannot be is to blame, and those that are not enabled are passed over.
-/
namespace ClassForge
open List (Forall₂)
variable {σ B : Type}

section
variable {α β ε : Type} {f g : α → Except ε β} {xs : List α}

theorem mapM_outcomes {R : α → β → Prop} {ys : List β}
    (each : ∀ x ∈ xs, ∀ y, f x = .ok y → R x y) (done : xs.mapM f = .ok ys) :
    Forall₂ R xs ys := by
  induction xs generalizing ys with
  | nil =>
    obtain rfl : [] = ys := Except.ok.inj done
    exact .nil
  | cons x xs ih =>
    obtain ⟨here, later⟩ := List.forall_mem_cons.mp each
    rw [List.mapM_cons] at done
    obtain ⟨y, first, more⟩ := bind_succeeds done
    obtain ⟨rest, others, listed⟩ := bind_succeeds more
    obtain rfl := Except.ok.inj listed
    exact .cons (here y first) (ih later others)

theorem mapM_alike (alike : ∀ x ∈ xs, f x = g x) : xs.mapM f = xs.mapM g := by
  induction xs with
  | nil => rfl
  | cons x xs ih =>
    obtain ⟨here, later⟩ := List.forall_mem_cons.mp alike
    rw [List.mapM_cons, List.mapM_cons, here, ih later]

end

namespace RegistryEntry
variable {e : RegistryEntry σ B}

def Creates (e : RegistryEntry σ B) (tree : PluginTree σ B) : Prop :=
  ∃ make, e.factory = some make ∧ make e.manifest = .ok tree

inductive Refused (e : RegistryEntry σ B) : RunError → Prop where
  | unequipped (enabled : e.status = .enabled) (bare : e.factory = none) :
      Refused e (.configuration (.noFactory e.name))
  | uncreated {make : PluginFactory σ B} {err : RunError} (enabled : e.status = .enabled)
      (equipped : e.factory = some make) (failed : make e.manifest = .error err) : Refused e err

theorem instantiate_of_idle (idle : e.status ≠ .enabled) : e.instantiate = .ok none := by
  rw [instantiate]
  split <;> first | rfl | exact absurd ‹_› idle

theorem instantiate_of_enabled (enabled : e.status = .enabled) : e.instantiate =
    match e.factory with
    | some make => (make e.manifest).map some
    | none => .error (.configuration (.noFactory e.name)) := by
  rw [instantiate, enabled]
  cases e.factory <;> rfl

theorem instantiate_eq_ok {tree? : Option (PluginTree σ B)} : e.instantiate = .ok tree? ↔
    if e.status = .enabled then ∃ tree, tree? = some tree ∧ e.Creates tree else tree? = none := by
  split
  · rename_i enabled
    rw [instantiate_of_enabled enabled]
    cases equipped : e.factory with
    | none => simp [Creates, equipped]
    | some make =>
      cases made : make e.manifest with
      | error err => simp [Creates, equipped, made, Except.map]
      | ok tree => simp [Creates, equipped, made, Except.map, eq_comm]
  · rename_i idle
    rw [instantiate_of_idle idle]
    exact Except.ok.injEq none tree? ▸ eq_comm

theorem instantiate_eq_error {err : RunError} : e.instantiate = .error err ↔ e.Refused err := by
  by_cases enabled : e.status = .enabled
  · rw [instantiate_of_enabled enabled]
    cases equipped : e.factory with
    | none =>
      constructor
      · intro failed
        exact Except.error.inj failed ▸ .unequipped enabled equipped
      · rintro (_ | ⟨_, other, _⟩)
        · rfl
        · simp [equipped] at other
    | some make =>
      constructor
      · intro failed
        refine .uncreated enabled equipped ?_
        cases made : make e.manifest with
        | error err' => simpa [made, Except.map] using failed
        | ok tree => simp [made, Except.map] at failed
      · rintro (⟨_, bare⟩ | ⟨_, same, failed⟩)
        · simp [equipped] at bare
        · obtain rfl := Option.some.inj (equipped.symm.trans same)
          simp [failed, Except.map]
  · rw [instantiate_of_idle enabled]
    constructor
    · nofun
    · rintro (⟨on, _⟩ | ⟨on, _, _⟩) <;> exact absurd on enabled

end RegistryEntry

namespace Registry
variable {r : Registry σ B} {name : String}

/-- The name is registered, and its entry can be made a plugin if it has to be. -/
def Ready (r : Registry σ B) (name : String) : Prop :=
  ∃ e, r.get? name = some e ∧ (e.status = .enabled → ∃ tree, e.Creates tree)

inductive Refused (r : Registry σ B) (name : String) : RunError → Prop where
  | unknown (missing : r.get? name = none) : Refused r name (.configuration (.unknownPlugin name))
  | unmade {e : RegistryEntry σ B} {err : RunError} (found : r.get? name = some e)
      (refused : e.Refused err) : Refused r name err

def made (r : Registry σ B) (name : String) : Except RunError (Option (PluginTree σ B)) := do
  (← r.named name).instantiate

theorem made_of_found {e : RegistryEntry σ B} (found : r.get? name = some e) :
    r.made name = e.instantiate := by
  rw [made, named, found]
  rfl

theorem made_of_missing (missing : r.get? name = none) :
    r.made name = .error (.configuration (.unknownPlugin name)) := by
  rw [made, named, missing]
  rfl

theorem ready_iff : r.Ready name ↔ ∃ tree?, r.made name = .ok tree? := by
  cases found : r.get? name with
  | none => simp [Ready, found, made_of_missing found]
  | some e =>
    simp only [made_of_found found, RegistryEntry.instantiate_eq_ok, Ready, found]
    by_cases enabled : e.status = .enabled <;> simp [enabled]

theorem refused_iff {err : RunError} : r.Refused name err ↔ r.made name = .error err := by
  cases found : r.get? name with
  | none =>
    rw [made_of_missing found]
    constructor
    · rintro (_ | ⟨there, _⟩)
      · rfl
      · simp [found] at there
    · intro failed
      exact Except.error.inj failed ▸ .unknown found
  | some e =>
    rw [made_of_found found, RegistryEntry.instantiate_eq_error]
    constructor
    · rintro (missing | ⟨there, refused⟩)
      · simp [found] at missing
      · exact Option.some.inj (found.symm.trans there) ▸ refused
    · exact .unmade found

theorem assemble_eq (r : Registry σ B) (names : List String) : r.assemble names =
    (names.mapM r.made).map fun trees => .ofTrees (trees.filterMap id) := by
  unfold assemble
  change (names.mapM r.made >>= _) = _
  cases names.mapM r.made <;> rfl

theorem assemble_fault (r : Registry σ B) (names : List String) :
    faultOf? (r.assemble names) = names.findSome? fun name => faultOf? (r.made name) := by
  rw [assemble_eq, faultOf?_map]
  exact faultOf?_mapM fun _ _ => rfl

theorem made_entry {tree? : Option (PluginTree σ B)} (done : r.made name = .ok tree?) :
    ∃ e, r.get? name = some e ∧ e.instantiate = .ok tree? := by
  obtain ⟨e, found, -⟩ := ready_iff.mpr ⟨tree?, done⟩
  exact ⟨e, found, made_of_found found ▸ done⟩

theorem created_of_instantiated {es : List (RegistryEntry σ B)}
    {trees : List (Option (PluginTree σ B))}
    (h : Forall₂ (fun e tree? => e.instantiate = .ok tree?) es trees) :
    Forall₂ RegistryEntry.Creates (es.filter fun e => e.status = .enabled)
      (trees.filterMap id) := by
  induction h with
  | nil => exact .nil
  | @cons e tree? es trees first rest ih =>
    rw [RegistryEntry.instantiate_eq_ok] at first
    by_cases enabled : e.status = .enabled
    · rw [if_pos enabled] at first
      obtain ⟨tree, rfl, creates⟩ := first
      rw [List.filter_cons, if_pos (decide_eq_true enabled)]
      exact .cons creates ih
    · rw [if_neg enabled] at first
      subst first
      rw [List.filter_cons, if_neg (by simpa using enabled)]
      exact ih

theorem instantiated_of_made {names : List String} {trees : List (Option (PluginTree σ B))}
    (h : Forall₂ (fun name tree? => r.made name = .ok tree?) names trees) :
    Forall₂ (fun e tree? => e.instantiate = .ok tree?) (names.filterMap r.get?) trees := by
  induction h with
  | nil => exact .nil
  | cons first rest ih =>
    obtain ⟨e, found, done⟩ := made_entry first
    rw [List.filterMap_cons_some found]
    exact .cons done ih

theorem assembleAll_creates {c : Compound σ B} (done : r.assembleAll = .ok c) :
    ∃ trees, Forall₂ RegistryEntry.Creates (r.entries.filter fun e => e.status = .enabled) trees ∧
      c = .ofTrees trees := by
  obtain ⟨trees, made, joined⟩ := bind_succeeds done
  obtain rfl := Except.ok.inj joined
  exact ⟨_, created_of_instantiated (mapM_outcomes (fun _ _ _ h => h) made), rfl⟩

/-- The enabled entries of the names, one for each time that a name is given. -/
def enabled (r : Registry σ B) (names : List String) : List (RegistryEntry σ B) :=
  (names.filterMap r.get?).filter fun e => e.status = .enabled

theorem assemble_creates {names : List String} {c : Compound σ B}
    (done : r.assemble names = .ok c) :
    ∃ trees, Forall₂ RegistryEntry.Creates (r.enabled names) trees ∧ c = .ofTrees trees := by
  rw [assemble_eq] at done
  obtain ⟨trees, made, rfl⟩ := map_succeeds done
  exact ⟨_, created_of_instantiated (instantiated_of_made (mapM_outcomes (fun _ _ _ h => h) made)),
    rfl⟩

theorem Indexed.assembleAll_eq (h : r.Indexed) : r.assembleAll = r.assemble r.names := by
  have each : ∀ e ∈ r.entries, e.instantiate = (r.made ∘ (·.name)) e := by
    intro e member
    have found : r.get? e.name = some e := h.get?_eq_some_iff.mpr ⟨member, rfl⟩
    exact (made_of_found found).symm
  rw [assemble_eq, names, List.mapM_map, ← mapM_alike each]
  unfold assembleAll
  cases r.entries.mapM RegistryEntry.instantiate <;> rfl

structure Assembles (r : Registry σ B) (names : List String) : Prop where
  succeeds_iff : (∃ c, r.assemble names = .ok c) ↔ ∀ name ∈ names, r.Ready name
  flattened : ∀ c, r.assemble names = .ok c →
    ∃ trees, Forall₂ RegistryEntry.Creates (r.enabled names) trees ∧ c = .ofTrees trees
  /-- The first name that cannot be assembled is to blame. -/
  error_iff : ∀ err, r.assemble names = .error err ↔
    ∃ before name after, names = before ++ name :: after ∧ (∀ n ∈ before, r.Ready n) ∧
      r.Refused name err

/-- Names are assembled in turn, and all of a registry in the order of registration. -/
theorem assembled_in_turn (es : List (RegistryEntry σ B)) :
    let r := ofEntries es
    (∀ names, r.Assembles names) ∧ r.assembleAll = r.assemble r.names := by
  intro r
  refine ⟨fun names => ?_, (ofEntries_indexed es).assembleAll_eq⟩
  constructor
  case succeeds_iff =>
    rw [← faultOf?_eq_none, assemble_fault, List.findSome?_eq_none_iff]
    exact forall₂_congr fun name _ => faultOf?_eq_none.trans ready_iff.symm
  case flattened => exact fun c => assemble_creates
  case error_iff =>
    intro err
    rw [← faultOf?_eq_some, assemble_fault, List.findSome?_eq_some_iff]
    simp only [faultOf?_eq_some, faultOf?_eq_none, ← ready_iff, ← refused_iff]
    refine exists₃_congr fun before name after => and_congr_right fun _ => and_comm

end Registry
end ClassForge
