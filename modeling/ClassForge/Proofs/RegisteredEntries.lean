import ClassForge.Registry
import Mathlib.Data.Finset.Card
import Mathlib.Data.Finset.Dedup
import Mathlib.Data.List.Induction

/-!
Registries after any registrations. The index leads to the place of each name; no name stands twice;
what is found under a name is the entry that was last registered under it, at the place where the
name was first registered.
-/
namespace ClassForge.Registry
variable {σ B : Type} {r : Registry σ B} {e x : RegistryEntry σ B} {name : String}

/-- A name is indexed at the place where it stands, and at no other. -/
def Indexed (r : Registry σ B) : Prop :=
  ∀ name i, r.index.lookup name = some i ↔ r.names[i]? = some name

theorem register_known {i : Nat} (known : r.index.lookup e.name = some i) :
    r.register e = { r with entries := r.entries.set i e } := by
  rw [register, known]

theorem register_new (new : r.index.lookup e.name = none) :
    r.register e = ⟨r.entries ++ [e], (e.name, r.entries.length) :: r.index⟩ := by
  rw [register, new]

theorem mem_register (member : x ∈ (r.register e).entries) : x = e ∨ x ∈ r.entries := by
  cases found : r.index.lookup e.name with
  | some i =>
    rw [register_known found] at member
    exact (List.mem_or_eq_of_mem_set member).symm
  | none =>
    rw [register_new found] at member
    exact (List.mem_append.mp member).symm.imp_left List.mem_singleton.mp

theorem mem_of_get? (found : r.get? name = some x) : x ∈ r.entries := by
  obtain ⟨i, -, there⟩ := Option.bind_eq_some_iff.mp found
  exact List.mem_of_getElem? there

theorem getElem?_names (r : Registry σ B) (i : Nat) :
    r.names[i]? = r.entries[i]?.map RegistryEntry.name := List.getElem?_map

private theorem getElem?_concat {α : Type} {xs : List α} {x y : α} {i : Nat} :
    (xs ++ [x])[i]? = some y ↔ xs[i]? = some y ∨ i = xs.length ∧ x = y := by
  rw [List.getElem?_append]
  split
  · exact (or_iff_left fun ⟨last, _⟩ => by omega).symm
  · have outside : xs[i]? = none := List.getElem?_eq_none (by omega)
    have last : i - xs.length = 0 ↔ i = xs.length := by omega
    simp [outside, List.getElem?_singleton, last]

theorem empty_indexed : Indexed ({} : Registry σ B) := by simp [Indexed, names]

namespace Indexed

theorem lookup_eq_none_iff (h : r.Indexed) : r.index.lookup name = none ↔ name ∉ r.names := by
  rw [List.mem_iff_getElem?, Option.eq_none_iff_forall_ne_some, not_exists]
  exact forall_congr' fun i => not_congr (h name i)

theorem distinct (h : r.Indexed) : r.names.Nodup := by
  rw [List.nodup_iff_getElem?_ne_getElem?]
  intro i j before inside same
  have there : r.names[j]? = some r.names[j] := List.getElem?_eq_getElem inside
  have later := (h _ j).mpr there
  have earlier := (h _ i).mpr (same.trans there)
  exact before.ne (Option.some.inj (earlier.symm.trans later))

theorem names_register (h : r.Indexed) (e : RegistryEntry σ B) :
    (r.register e).names = if e.name ∈ r.names then r.names else r.names ++ [e.name] := by
  cases found : r.index.lookup e.name with
  | some i =>
    have there := (h e.name i).mp found
    rw [register_known found, if_pos (List.mem_of_getElem? there)]
    obtain ⟨inside, same⟩ := List.getElem?_eq_some_iff.mp there
    -- the name that stands at the place is written there again
    calc (r.entries.set i e).map RegistryEntry.name
        = r.names.set i e.name := List.map_set
      _ = r.names.set i r.names[i] := by rw [same]
      _ = r.names := List.set_getElem_self inside
  | none =>
    rw [register_new found, if_neg (h.lookup_eq_none_iff.mp found)]
    exact List.map_append

theorem register (h : r.Indexed) (e : RegistryEntry σ B) : (r.register e).Indexed := by
  intro name i
  cases found : r.index.lookup e.name with
  | some j =>
    have known := List.mem_of_getElem? ((h e.name j).mp found)
    rw [h.names_register, if_pos known, register_known found]
    exact h name i
  | none =>
    have new := h.lookup_eq_none_iff.mp found
    rw [h.names_register, if_neg new, register_new found, List.lookup_cons, getElem?_concat, ← h,
      names, List.length_map]
    by_cases same : name = e.name
    · subst same
      simp [found, eq_comm]
    · have other : (name == e.name) = false := by simpa using same
      simp [other, Ne.symm same]

theorem lookup_bound (h : r.Indexed) {i : Nat} (found : r.index.lookup name = some i) :
    i < r.entries.length := by
  obtain ⟨inside, -⟩ := List.getElem?_eq_some_iff.mp ((h name i).mp found)
  exact inside.trans_eq (List.length_map _)

/-- What stands at the place of a name is found, so looking it up never misses the entries. -/
theorem get?_eq_some_iff (h : r.Indexed) :
    r.get? name = some x ↔ x ∈ r.entries ∧ x.name = name := by
  rw [get?, Option.bind_eq_some_iff, List.mem_iff_getElem?]
  constructor
  · rintro ⟨i, found, there⟩
    have named := (h name i).mp found
    rw [getElem?_names, there] at named
    exact ⟨⟨i, there⟩, Option.some.inj named⟩
  · rintro ⟨⟨i, there⟩, rfl⟩
    refine ⟨i, (h x.name i).mpr ?_, there⟩
    rw [getElem?_names, there]
    rfl

theorem get?_eq_none_iff (h : r.Indexed) : r.get? name = none ↔ name ∉ r.names := by
  rw [Option.eq_none_iff_forall_ne_some, names, List.mem_map, not_exists]
  exact forall_congr' fun x => not_congr h.get?_eq_some_iff

theorem get?_eq_find? (h : r.Indexed) (name : String) :
    r.get? name = r.entries.find? (·.name == name) := by
  cases found : r.entries.find? (·.name == name) with
  | some x =>
    exact h.get?_eq_some_iff.mpr
      ⟨List.mem_of_find?_eq_some found, eq_of_beq (List.find?_some found :)⟩
  | none =>
    refine h.get?_eq_none_iff.mpr fun known => ?_
    obtain ⟨x, member, same⟩ := List.mem_map.mp known
    exact List.find?_eq_none.mp found x member (beq_iff_eq.mpr same)

theorem lookup_inj (h : r.Indexed) {other : String} {i : Nat}
    (found : r.index.lookup name = some i) (foundOther : r.index.lookup other = some i) :
    name = other :=
  Option.some.inj (((h name i).mp found).symm.trans ((h other i).mp foundOther))

/-- What was registered under a name before is not found any more, and all else still is. -/
theorem get?_register (h : r.Indexed) (e : RegistryEntry σ B) (name : String) :
    (r.register e).get? name = if e.name = name then some e else r.get? name := by
  cases found : r.index.lookup e.name with
  | some i =>
    rw [register_known found]
    split
    · rename_i same
      rw [get?, ← same, found, Option.bind_some, List.getElem?_set_self (h.lookup_bound found)]
    · rename_i other
      rw [get?, get?]
      cases place : r.index.lookup name with
      | none => rfl
      | some j =>
        have apart : i ≠ j := fun same => other (h.lookup_inj found (same ▸ place))
        exact List.getElem?_set_ne apart
  | none =>
    rw [register_new found, get?, List.lookup_cons]
    by_cases same : e.name = name
    · rw [if_pos same, same, beq_self_eq_true]
      exact List.getElem?_concat_length
    · have other : (name == e.name) = false := beq_eq_false_iff_ne.mpr (Ne.symm same)
      rw [if_neg same, other, get?]
      cases place : r.index.lookup name with
      | none => rfl
      | some j => exact List.getElem?_append_left (h.lookup_bound place)

theorem register_fresh (h : r.Indexed) (fresh : e.name ∉ r.names) :
    (r.register e).entries = r.entries ++ [e] := by
  rw [register_new (h.lookup_eq_none_iff.mpr fresh)]

end Indexed

theorem ofEntries_concat (es : List (RegistryEntry σ B)) (e : RegistryEntry σ B) :
    ofEntries (es ++ [e]) = (ofEntries es).register e :=
  List.foldl_concat ..

theorem ofEntries_indexed (es : List (RegistryEntry σ B)) : (ofEntries es).Indexed := by
  induction es using List.reverseRecOn with
  | nil => exact empty_indexed
  | append_singleton es e ih => exact ofEntries_concat es e ▸ ih.register e

theorem ofEntries_names (es : List (RegistryEntry σ B)) :
    (ofEntries es).names = (es.map (·.name)).eraseDups := by
  induction es using List.reverseRecOn with
  | nil => rfl
  | append_singleton es e ih =>
    rw [ofEntries_concat, (ofEntries_indexed es).names_register, ih, List.map_append,
      List.map_singleton, eraseDups_concat]
    simp only [List.mem_eraseDups]

theorem ofEntries_get? (es : List (RegistryEntry σ B)) (name : String) :
    (ofEntries es).get? name = es.reverse.find? (·.name == name) := by
  induction es using List.reverseRecOn with
  | nil => rfl
  | append_singleton es e ih =>
    rw [ofEntries_concat, (ofEntries_indexed es).get?_register, ih, List.reverse_concat,
      List.find?_cons]
    split
    · rename_i same
      rw [same, beq_self_eq_true]
    · rename_i other
      rw [beq_eq_false_iff_ne.mpr other]

theorem mem_ofEntries {es : List (RegistryEntry σ B)} (member : x ∈ (ofEntries es).entries) :
    x ∈ es := by
  induction es using List.reverseRecOn with
  | nil => exact absurd member List.not_mem_nil
  | append_singleton es e ih =>
    rw [ofEntries_concat] at member
    rcases mem_register member with rfl | earlier
    · exact List.mem_append_right es List.mem_cons_self
    · exact List.mem_append_left [e] (ih earlier)

theorem ofEntries_distinct {es : List (RegistryEntry σ B)} (distinct : (es.map (·.name)).Nodup) :
    (ofEntries es).entries = es := by
  induction es using List.reverseRecOn with
  | nil => rfl
  | append_singleton es e ih =>
    rw [List.map_append, List.map_singleton, ← List.concat_eq_append, List.nodup_concat] at distinct
    obtain ⟨fresh, earlier⟩ := distinct
    have new : e.name ∉ (ofEntries es).names := by
      rwa [ofEntries_names, List.mem_eraseDups]
    rw [ofEntries_concat, (ofEntries_indexed es).register_fresh new, ih earlier]

theorem sorted_perm (r : Registry σ B) : r.sorted.Perm r.entries := List.mergeSort_perm _ _

theorem Indexed.sorted_ascends (h : r.Indexed) : r.sorted.Pairwise (·.name < ·.name) := by
  have apart : r.sorted.Pairwise (·.name ≠ ·.name) :=
    List.pairwise_map.mp (((sorted_perm r).map _).nodup_iff.mpr h.distinct)
  refine ((mergeSort_ascends RegistryEntry.name r.entries).and apart).imp
    fun ⟨notBelow, other⟩ => ?_
  exact Std.lt_of_le_of_ne (Std.not_lt.mp notBelow) other

structure Holds (r : Registry σ B) (es : List (RegistryEntry σ B)) : Prop where
  indexed : ∀ name i, r.index.lookup name = some i ↔ ∃ e, r.entries[i]? = some e ∧ e.name = name
  everywhere : ∀ i < r.entries.length, ∃ name, r.index.lookup name = some i
  distinct : r.names.Nodup
  size_eq : r.size = (es.map (·.name)).toFinset.card
  /-- The names as they first occur. -/
  names_eq : r.names = (es.map (·.name)).eraseDups
  get?_eq : ∀ name, r.get? name = es.reverse.find? (·.name == name)
  sorted_perm : r.sorted.Perm r.entries
  ascending : r.sorted.Pairwise (·.name < ·.name)

/-- A registry is an index of names in the order of their first registration, each with what was
registered last. -/
theorem registered_in_order (es : List (RegistryEntry σ B)) : (ofEntries es).Holds es := by
  have h := ofEntries_indexed es
  have named (name : String) (i : Nat) : (ofEntries es).index.lookup name = some i ↔
      ∃ e, (ofEntries es).entries[i]? = some e ∧ e.name = name := by
    rw [h name i, getElem?_names, Option.map_eq_some_iff]
  constructor
  case indexed => exact named
  case everywhere =>
    intro i inside
    exact ⟨_, (named _ i).mpr ⟨_, List.getElem?_eq_getElem inside, rfl⟩⟩
  case distinct => exact h.distinct
  case size_eq =>
    have same : (ofEntries es).names.toFinset = (es.map (·.name)).toFinset := by
      ext name
      rw [List.mem_toFinset, List.mem_toFinset, ofEntries_names, List.mem_eraseDups]
    rw [← same, List.toFinset_card_of_nodup h.distinct, names, List.length_map, size]
  case names_eq => exact ofEntries_names es
  case get?_eq => exact ofEntries_get? es
  case sorted_perm => exact sorted_perm _
  case ascending => exact h.sorted_ascends

end ClassForge.Registry
