import ClassForge.Plugin

/-!
Forests of plugins and the compounds made of them. A leaf has a position: the places to go down to
it from the forest. The members of the compound are the leaves in the order of their positions, so
they do not change when a run of members is put into a compound of its own, or when a plugin for
nothing is put in between; and two forests that make the same compound can be turned into each
other by such steps.
-/
namespace ClassForge
variable {σ B : Type}

namespace PluginTree

theorem flattenAll_append (trees more : List (PluginTree σ B)) :
    flattenAll (trees ++ more) = flattenAll trees ++ flattenAll more := by
  induction trees with
  | nil => rfl
  | cons t ts ih => rw [List.cons_append, flattenAll, flattenAll, ih, List.append_assoc]

theorem flattenAll_singles (ps : List (Plugin σ B)) : flattenAll (ps.map .single) = ps := by
  induction ps with
  | nil => rfl
  | cons p ps ih => rw [List.map_cons, flattenAll, flatten, ih, List.singleton_append]

def leafAt? : List (PluginTree σ B) → List Nat → Option (Plugin σ B)
  | _, [] => none
  | trees, place :: position =>
    match trees[place]? with
    | some (.single p) => if position.isEmpty then some p else none
    | some (.compound members) => leafAt? members position
    | _ => none

mutual

def leaves : PluginTree σ B → List (List Nat × Plugin σ B)
  | .noop => []
  | .single p => [([], p)]
  | .compound members => leavesFrom 0 members

def leavesFrom (place : Nat) : List (PluginTree σ B) → List (List Nat × Plugin σ B)
  | [] => []
  | t :: ts => (leaves t).map (fun (position, p) => (place :: position, p)) ++
      leavesFrom (place + 1) ts

end

mutual

theorem leaves_plugins (tree : PluginTree σ B) : tree.leaves.map (·.2) = tree.flatten := by
  cases tree with
  | noop => rfl
  | single p => rfl
  | compound members => exact leavesFrom_plugins 0 members

theorem leavesFrom_plugins (place : Nat) (trees : List (PluginTree σ B)) :
    (leavesFrom place trees).map (·.2) = flattenAll trees := by
  cases trees with
  | nil => rfl
  | cons t ts =>
    rw [leavesFrom, flattenAll, List.map_append, List.map_map, leavesFrom_plugins (place + 1) ts]
    exact congrArg (· ++ flattenAll ts) (leaves_plugins t)

end

theorem mem_leavesFrom {place : Nat} {trees : List (PluginTree σ B)}
    {leaf : List Nat × Plugin σ B} : leaf ∈ leavesFrom place trees ↔
      ∃ i t position, trees[i]? = some t ∧ (position, leaf.2) ∈ t.leaves ∧
        leaf.1 = (place + i) :: position := by
  induction trees generalizing place with
  | nil => simp [leavesFrom]
  | cons t ts ih =>
    rw [leavesFrom, List.mem_append, ih]
    constructor
    · rintro (here | ⟨i, t', position, there, inside, named⟩)
      · obtain ⟨⟨position, p⟩, inside, rfl⟩ := List.mem_map.mp here
        exact ⟨0, t, position, rfl, inside, rfl⟩
      · exact ⟨i + 1, t', position, there, inside, by rw [named]; congr 1; omega⟩
    · rintro ⟨i, t', position, there, inside, named⟩
      cases i with
      | zero =>
        obtain rfl := Option.some.inj there
        exact Or.inl (List.mem_map.mpr ⟨(position, leaf.2), inside, Prod.ext named.symm rfl⟩)
      | succ i => exact Or.inr ⟨i, t', position, there, inside, by rw [named]; congr 1; omega⟩

theorem leafAt?_cons {trees : List (PluginTree σ B)} {place : Nat} {position : List Nat}
    {p : Plugin σ B} : leafAt? trees (place :: position) = some p ↔
      trees[place]? = some (.single p) ∧ position = [] ∨
        ∃ members, trees[place]? = some (.compound members) ∧
          leafAt? members position = some p := by
  rw [leafAt?]
  rcases trees[place]? with _ | (_ | q | members)
  · simp
  · simp
  · cases position <;> simp
  · simp

theorem mem_leaves_iff {trees : List (PluginTree σ B)} {position : List Nat} {p : Plugin σ B} :
    (position, p) ∈ leavesFrom 0 trees ↔ leafAt? trees position = some p := by
  induction position generalizing trees with
  | nil => simp [mem_leavesFrom, leafAt?]
  | cons place position ih =>
    rw [mem_leavesFrom, leafAt?_cons]
    simp only [Nat.zero_add, List.cons.injEq]
    constructor
    · rintro ⟨i, t, rest, there, inside, rfl, rfl⟩
      cases t with
      | noop => simp [leaves] at inside
      | single q =>
        obtain ⟨rfl, rfl⟩ : position = [] ∧ p = q := by simpa [leaves] using inside
        exact Or.inl ⟨there, rfl⟩
      | compound members => exact Or.inr ⟨members, there, ih.mp inside⟩
    · rintro (⟨there, rfl⟩ | ⟨members, there, below⟩)
      · exact ⟨place, .single p, [], there, by simp [leaves], rfl, rfl⟩
      · exact ⟨place, .compound members, position, there, ih.mpr below, rfl, rfl⟩

mutual

theorem leaves_ascend (tree : PluginTree σ B) :
    tree.leaves.Pairwise fun left right => left.1 < right.1 := by
  cases tree with
  | noop => exact .nil
  | single p => exact List.pairwise_singleton _ _
  | compound members => exact leavesFrom_ascend 0 members

theorem leavesFrom_ascend (place : Nat) (trees : List (PluginTree σ B)) :
    (leavesFrom place trees).Pairwise fun left right => left.1 < right.1 := by
  cases trees with
  | nil => exact .nil
  | cons t ts =>
    rw [leavesFrom]
    refine List.pairwise_append.mpr ⟨?_, leavesFrom_ascend (place + 1) ts, ?_⟩
    · refine List.pairwise_map.mpr ((leaves_ascend t).imp fun before => ?_)
      exact List.cons_lt_cons_iff.mpr (Or.inr ⟨rfl, before⟩)
    · intro left here right later
      obtain ⟨⟨position, p⟩, -, rfl⟩ := List.mem_map.mp here
      obtain ⟨i, t', position', -, -, named⟩ := mem_leavesFrom.mp later
      rw [named]
      exact List.cons_lt_cons_iff.mpr (Or.inl (by omega))

end

/-- The plugins are those at the leaves of the forest, each once, in the order of their positions. -/
def ListsLeaves (trees : List (PluginTree σ B)) (plugins : List (Plugin σ B)) : Prop :=
  ∃ positions : List (List Nat), positions.Pairwise (· < ·) ∧
    (∀ position, position ∈ positions ↔ (leafAt? trees position).isSome) ∧
    positions.map (leafAt? trees) = plugins.map some

theorem flattenAll_listsLeaves (trees : List (PluginTree σ B)) :
    ListsLeaves trees (flattenAll trees) := by
  refine ⟨(leavesFrom 0 trees).map (·.1), List.pairwise_map.mpr (leavesFrom_ascend 0 trees), ?_, ?_⟩
  · intro position
    rw [List.mem_map, Option.isSome_iff_exists]
    constructor
    · rintro ⟨⟨_, p⟩, listed, rfl⟩
      exact ⟨p, mem_leaves_iff.mp listed⟩
    · rintro ⟨p, found⟩
      exact ⟨(position, p), mem_leaves_iff.mpr found, rfl⟩
  · rw [← leavesFrom_plugins 0 trees, List.map_map, List.map_map]
    refine List.map_congr_left fun leaf listed => ?_
    exact mem_leaves_iff.mp listed

example (p q : Plugin σ B) :
    flattenAll [.compound [.single p, .noop, .compound []], .single q] = [p, q] := rfl

/-- Forests that differ in how their leaves are put together, and by plugins for nothing. -/
inductive Regrouped : List (PluginTree σ B) → List (PluginTree σ B) → Prop where
  | same (trees) : Regrouped trees trees
  | symm {trees trees'} : Regrouped trees trees' → Regrouped trees' trees
  | trans {trees trees' trees''} : Regrouped trees trees' → Regrouped trees' trees'' →
      Regrouped trees trees''
  /-- A run of members becomes one compound. -/
  | grouped (before run after) :
      Regrouped (before ++ run ++ after) (before ++ .compound run :: after)
  /-- A plugin for nothing is put in somewhere. -/
  | idle (before after) : Regrouped (before ++ after) (before ++ .noop :: after)
  /-- The members of a compound are regrouped. -/
  | inside (before after) {members members'} : Regrouped members members' →
      Regrouped (before ++ .compound members :: after) (before ++ .compound members' :: after)

namespace Regrouped

theorem flattened {trees trees' : List (PluginTree σ B)} (h : Regrouped trees trees') :
    flattenAll trees = flattenAll trees' := by
  induction h with
  | same => rfl
  | symm _ ih => exact ih.symm
  | trans _ _ left right => exact left.trans right
  | grouped before run after =>
    rw [List.append_assoc, flattenAll_append, flattenAll_append, flattenAll_append, flattenAll,
      flatten]
  | idle before after =>
    rw [flattenAll_append, flattenAll_append, flattenAll, flatten, List.nil_append]
  | inside before after _ ih =>
    rw [flattenAll_append, flattenAll_append, flattenAll, flattenAll, flatten, flatten, ih]

theorem around {trees trees' : List (PluginTree σ B)} (h : Regrouped trees trees')
    (before after : List (PluginTree σ B)) :
    Regrouped (before ++ trees ++ after) (before ++ trees' ++ after) := by
  induction h with
  | same => exact .same _
  | symm _ ih => exact ih.symm
  | trans _ _ left right => exact left.trans right
  | grouped first run last =>
    simpa only [List.append_assoc, List.cons_append] using
      Regrouped.grouped (before ++ first) run (last ++ after)
  | idle first last =>
    simpa only [List.append_assoc, List.cons_append] using
      Regrouped.idle (before ++ first) (last ++ after)
  | inside first last members _ =>
    simpa only [List.append_assoc, List.cons_append] using
      Regrouped.inside (before ++ first) (last ++ after) members

end Regrouped

mutual

theorem regrouped_flatten (tree : PluginTree σ B) : Regrouped [tree] (tree.flatten.map .single) := by
  cases tree with
  | noop => exact (Regrouped.idle [] []).symm
  | single p => exact .same _
  | compound members =>
    have opened : Regrouped [.compound members] members := by
      simpa using (Regrouped.grouped [] members []).symm
    exact opened.trans (regrouped_flattenAll members)

theorem regrouped_flattenAll (trees : List (PluginTree σ B)) :
    Regrouped trees ((flattenAll trees).map .single) := by
  cases trees with
  | nil => exact .same _
  | cons t ts =>
    have first : Regrouped ([t] ++ ts) (t.flatten.map .single ++ ts) := by
      simpa using (regrouped_flatten t).around [] ts
    have rest : Regrouped (t.flatten.map .single ++ ts)
        (t.flatten.map .single ++ (flattenAll ts).map .single) := by
      simpa using (regrouped_flattenAll ts).around (t.flatten.map .single) []
    rw [flattenAll, List.map_append]
    exact first.trans rest

end

/-- Forests make the same compound exactly when one is the other regrouped. -/
theorem regrouped_iff {trees trees' : List (PluginTree σ B)} :
    Regrouped trees trees' ↔ flattenAll trees' = flattenAll trees := by
  refine ⟨fun h => h.flattened.symm, fun same => ?_⟩
  have other := regrouped_flattenAll trees'
  rw [same] at other
  exact (regrouped_flattenAll trees).trans other.symm

end PluginTree
end ClassForge
