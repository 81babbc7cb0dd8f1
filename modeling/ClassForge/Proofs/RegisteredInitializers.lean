import ClassForge.Proofs.CarriedInitializers
import ClassForge.Proofs.InitializerSafety
import Mathlib.Data.List.Basic

/-!
Initializers registered for any types, and for some of them again. The list stays a map: a type has
one entry, with what was registered for it last, at the place where it was first registered. The
artifact's own type counts as registered before all others, with a dormant initializer.
-/
namespace ClassForge.Artifact
variable {type t u : TypeName} {i j : Initializer} {inits : List (TypeName × Initializer)}
  {registrations : List (TypeName × Initializer)}

theorem withInitializers_eq (a : Artifact) (registrations : List (TypeName × Initializer)) :
    a.withInitializers registrations =
      { a with initializers := (a.withInitializers registrations).initializers } := by
  induction registrations using List.reverseRecOn with
  | nil => rfl
  | append_singleton registrations last ih =>
    rw [withInitializers_concat, withInitializer, ih]

/-- What was registered for a type last. The own type is dormant until it is registered. -/
def lastRegistered? (type : TypeName) (registrations : List (TypeName × Initializer))
    (t : TypeName) : Option Initializer :=
  (registrations.reverse.lookup t).or (if t = type then some .dormant else none)

/-- How many registrations there were before the first one for a type, the one that the artifact
begins with included. -/
def registeredAt (type : TypeName) (registrations : List (TypeName × Initializer))
    (t : TypeName) : Nat := (type :: registrations.map (·.1)).idxOf t

theorem lastRegistered?_concat (type : TypeName) (registrations : List (TypeName × Initializer))
    (t u : TypeName) (i : Initializer) :
    lastRegistered? type (registrations ++ [(t, i)]) u =
      if u = t then some i else lastRegistered? type registrations u := by
  rw [lastRegistered?, List.reverse_concat, List.lookup_cons]
  by_cases same : u = t
  · rw [if_pos same, beq_iff_eq.mpr same]
    rfl
  · rw [if_neg same, beq_false_of_ne same]
    rfl

theorem registeredAt_own (type : TypeName) (registrations : List (TypeName × Initializer)) :
    registeredAt type registrations type = 0 := List.idxOf_cons_self

theorem registeredAt_append (known : t ∈ type :: registrations.map (·.1))
    (more : List (TypeName × Initializer)) :
    registeredAt type (registrations ++ more) t = registeredAt type registrations t := by
  rw [registeredAt, List.map_append, ← List.cons_append, List.idxOf_append_of_mem known]
  rfl

theorem registeredAt_concat_lt (known : u ∈ type :: registrations.map (·.1))
    (fresh : t ∉ type :: registrations.map (·.1)) :
    registeredAt type (registrations ++ [(t, i)]) u <
      registeredAt type (registrations ++ [(t, i)]) t := by
  have last : registeredAt type (registrations ++ [(t, i)]) t =
      (type :: registrations.map (·.1)).length := by
    rw [registeredAt, List.map_append, ← List.cons_append, List.idxOf_append_of_notMem fresh]
    simp
  rw [registeredAt_append known, last]
  exact List.idxOf_lt_length_of_mem known

theorem setInitializer_known (i : Initializer) (known : t ∈ inits.map (·.1)) :
    (setInitializer t i inits).map (·.1) = inits.map (·.1) := by
  induction inits with
  | nil => exact absurd known List.not_mem_nil
  | cons first rest ih =>
    rw [setInitializer]
    by_cases same : first.1 = t
    · rw [if_pos same]
      rfl
    · have later : t ∈ rest.map (·.1) := (List.mem_cons.mp known).resolve_left (Ne.symm same)
      rw [if_neg same, List.map_cons, List.map_cons, ih later]

/-- An entry is overwritten. As types are distinct, no second one comes to light behind it. -/
theorem mem_setInitializer (distinct : (inits.map (·.1)).Nodup) :
    (u, j) ∈ setInitializer t i inits ↔ u = t ∧ j = i ∨ u ≠ t ∧ (u, j) ∈ inits := by
  induction inits with
  | nil => simp [setInitializer]
  | cons first rest ih =>
    obtain ⟨fresh, apart⟩ := List.nodup_cons.mp (List.map_cons ▸ distinct)
    rw [setInitializer]
    by_cases same : first.1 = t
    · have absent : u = t → (u, j) ∉ rest := by
        rintro rfl member
        exact fresh (same ▸ List.mem_map_of_mem member)
      rw [if_pos same, List.mem_cons, List.mem_cons, Prod.mk.injEq]
      grind
    · rw [if_neg same, List.mem_cons, List.mem_cons, ih apart]
      grind

/-- The list holds for each type what was registered for it last, and has the types in the order in
which they were first registered. -/
structure MapOf (type : TypeName) (registrations inits : List (TypeName × Initializer)) :
    Prop where
  latest : ∀ t i, (t, i) ∈ inits ↔ lastRegistered? type registrations t = some i
  inOrder : (inits.map (·.1)).Pairwise fun t u =>
    registeredAt type registrations t < registeredAt type registrations u

namespace MapOf

theorem distinct (h : MapOf type registrations inits) : (inits.map (·.1)).Nodup := by
  refine h.inOrder.imp ?_
  intro x y before same
  rw [same] at before
  exact Nat.lt_irrefl _ before

theorem mem_types (h : MapOf type registrations inits) :
    t ∈ inits.map (·.1) ↔ t ∈ type :: registrations.map (·.1) := by
  have listed : t ∈ inits.map (·.1) ↔ (lastRegistered? type registrations t).isSome = true := by
    rw [Option.isSome_iff_exists, List.mem_map]
    simp only [← h.latest, Prod.exists, exists_and_right, exists_eq_right]
  have given : (registrations.reverse.lookup t).isSome = true ↔ t ∈ registrations.map (·.1) := by
    rw [List.lookup_isSome_iff, List.mem_map]
    simp only [List.mem_reverse, beq_iff_eq, eq_comm (a := t)]
  rw [listed, lastRegistered?, Option.isSome_or, Bool.or_eq_true, given, List.mem_cons, or_comm]
  by_cases own : t = type <;> simp [own]

theorem initial (type : TypeName) : MapOf type [] [(type, .dormant)] where
  latest t i := by
    rw [List.mem_singleton, Prod.mk.injEq]
    by_cases own : t = type
    · simp [lastRegistered?, own, eq_comm]
    · simp [lastRegistered?, own]
  inOrder := List.pairwise_singleton ..

theorem registered (h : MapOf type registrations inits) (t : TypeName) (i : Initializer) :
    MapOf type (registrations ++ [(t, i)]) (setInitializer t i inits) where
  latest u j := by
    rw [mem_setInitializer h.distinct, lastRegistered?_concat]
    by_cases same : u = t
    · simp [same, eq_comm]
    · simp [same, h.latest]
  inOrder := by
    have kept : (inits.map (·.1)).Pairwise fun x y =>
        registeredAt type (registrations ++ [(t, i)]) x <
          registeredAt type (registrations ++ [(t, i)]) y := by
      refine h.inOrder.imp_of_mem ?_
      intro x y there here before
      rwa [registeredAt_append (h.mem_types.mp there), registeredAt_append (h.mem_types.mp here)]
    by_cases known : t ∈ inits.map (·.1)
    · rwa [setInitializer_known i known]
    · rw [setInitializer_fresh i known, List.map_append, List.map_singleton, List.pairwise_append]
      refine ⟨kept, List.pairwise_singleton .., ?_⟩
      intro x there y last
      obtain rfl := List.mem_singleton.mp last
      exact registeredAt_concat_lt (h.mem_types.mp there) (h.mem_types.not.mp known)

theorem own_first (h : MapOf type registrations inits) :
    inits.head?.map (·.1) = some type := by
  have own : type ∈ inits.map (·.1) := h.mem_types.mpr List.mem_cons_self
  cases inits with
  | nil => exact absurd own List.not_mem_nil
  | cons first rest =>
    rcases List.mem_cons.mp own with same | later
    · exact congrArg some same.symm
    · -- the first entry would be of a type registered before the own one
      have before := List.rel_of_pairwise_cons h.inOrder later
      rw [registeredAt_own] at before
      exact absurd before (Nat.not_lt_zero _)

/-- Of the alive initializers, the first is the one of the type that was registered before the
types of the others. -/
theorem firstAlive_iff {a : Artifact} (h : MapOf type registrations a.initializers) :
    a.FirstAlive t i ↔ lastRegistered? type registrations t = some i ∧ i.alive = true ∧
      ∀ u j, registeredAt type registrations u < registeredAt type registrations t →
        lastRegistered? type registrations u = some j → j.alive = false := by
  constructor
  · rintro ⟨alive, earlier, later, split, dormant⟩
    have order := List.pairwise_map.mp h.inOrder
    rw [split, List.pairwise_append, List.pairwise_cons] at order
    obtain ⟨-, ⟨behind, -⟩, -⟩ := order
    refine ⟨(h.latest t i).mp (by simp [split]), alive, ?_⟩
    intro u j before given
    have there := (h.latest u j).mpr given
    rw [split, List.mem_append, List.mem_cons] at there
    rcases there with there | same | there
    · exact dormant _ there
    · obtain ⟨rfl, -⟩ := Prod.mk.inj same
      exact absurd before (Nat.lt_irrefl _)
    · exact absurd before (Nat.lt_asymm (behind _ there))
  · rintro ⟨given, alive, dormant⟩
    obtain ⟨earlier, later, split⟩ := List.append_of_mem ((h.latest t i).mpr given)
    have order := List.pairwise_map.mp h.inOrder
    rw [split, List.pairwise_append] at order
    obtain ⟨-, -, ahead⟩ := order
    refine ⟨alive, earlier, later, split, ?_⟩
    intro entry there
    exact dormant entry.1 entry.2 (ahead entry there (t, i) List.mem_cons_self)
      ((h.latest entry.1 entry.2).mp (by simp [split, there]))

end MapOf

theorem withInitializers_mapOf (type : TypeName) (bytes : Bytes)
    (registrations : List (TypeName × Initializer)) :
    MapOf type registrations
      ((ofBytes type bytes).withInitializers registrations).initializers := by
  induction registrations using List.reverseRecOn with
  | nil => exact .initial type
  | append_singleton registrations last ih =>
    rw [withInitializers_concat]
    exact ih.registered last.1 last.2

structure Holds (a : Artifact) (type : TypeName) (bytes : Bytes)
    (registrations : List (TypeName × Initializer)) : Prop where
  type_eq : a.type = type
  bytes_eq : a.bytes = bytes
  distinct : (a.initializers.map (·.1)).Nodup
  ownFirst : a.initializers.head?.map (·.1) = some type
  inOrder : (a.initializers.map (·.1)).Pairwise fun t u =>
    registeredAt type registrations t < registeredAt type registrations u
  latest : ∀ t i, (t, i) ∈ a.initializers ↔ lastRegistered? type registrations t = some i
  firstAlive : ∀ t i, a.liveInitializer? = some (t, i) ↔
    lastRegistered? type registrations t = some i ∧ i.alive = true ∧
      ∀ u j, registeredAt type registrations u < registeredAt type registrations t →
        lastRegistered? type registrations u = some j → j.alive = false
  noneAlive : a.liveInitializer? = none ↔
    ∀ t i, lastRegistered? type registrations t = some i → i.alive = false

/-- For whatever types initializers are registered, and however often: each type has one entry, with
its last initializer, where it was first registered, and the own type is never moved from the front.
What is alive is found by what was registered alone. -/
theorem initializers_form_map (type : TypeName) (bytes : Bytes)
    (registrations : List (TypeName × Initializer)) :
    ((ofBytes type bytes).withInitializers registrations).Holds type bytes registrations := by
  have h := withInitializers_mapOf type bytes registrations
  constructor
  case type_eq => rw [withInitializers_eq, ofBytes]
  case bytes_eq => rw [withInitializers_eq, ofBytes]
  case distinct => exact h.distinct
  case ownFirst => exact h.own_first
  case inOrder => exact h.inOrder
  case latest => exact h.latest
  case firstAlive =>
    intro t i
    rw [liveInitializer?_eq_some_iff, h.firstAlive_iff]
  case noneAlive =>
    rw [liveInitializer?_eq_none_iff]
    simp only [Prod.forall, h.latest]

example :
    let made := (ofBytes ⟨"Foo"⟩ []).withInitializers
      [(⟨"Foo$1"⟩, .live "one"), (⟨"Foo"⟩, .live "own"), (⟨"Foo$1"⟩, .dormant)]
    made.initializers = [(⟨"Foo"⟩, .live "own"), (⟨"Foo$1"⟩, .dormant)] ∧
      made.liveInitializer? = some (⟨"Foo"⟩, .live "own") := by decide

end ClassForge.Artifact
