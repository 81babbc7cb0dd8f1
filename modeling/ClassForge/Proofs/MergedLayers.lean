import ClassForge.Settings.Layers

/-!
What is found in merged tables. Along a path on which only tables stand, layers are merged value by
value; where the outcome is no table, it is the value of the last layer that has one there.
-/
namespace ClassForge.Value

/-- Before the end of the path, only tables stand on it. -/
def Clear : List String → Entries → Prop
  | key :: next :: path, entries => ∀ v, lookup key entries = some v →
      ∃ inner, v = .table inner ∧ Clear (next :: path) inner
  | _, _ => True

def isTable : Value → Bool
  | .table _ => true
  | _ => false

def lastGiven? (path : List String) (layers : List Entries) : Option Value :=
  layers.reverse.findSome? fun entries => (Value.table entries).at? path

variable {path : List String}

theorem at_cons (key : String) (path : List String) (entries : Entries) :
    (Value.table entries).at? (key :: path) = (lookup key entries).bind (at? · path) := rfl

theorem at_singleton (key : String) (entries : Entries) :
    (Value.table entries).at? [key] = lookup key entries :=
  (at_cons key [] entries).trans (Option.bind_fun_some _)

theorem at_nothing (below : path ≠ []) : (Value.table []).at? path = none := by
  cases path with
  | nil => exact absurd rfl below
  | cons key path => rfl

theorem Clear.nothing (path : List String) : Clear path [] := by
  rcases path with _ | ⟨key, _ | ⟨next, path⟩⟩
  · trivial
  · trivial
  · exact fun v found => by cases found

theorem overlay_none (v : Option Value) : overlay none v = v := by
  cases v <;> rfl

theorem merge_plain (old : Value) {v : Value} (plain : v.isTable = false) : merge old v = v := by
  cases v with
  | table entries => cases plain
  | _ => rfl

theorem plain_of_merge {old new : Value} (plain : (merge old new).isTable = false) :
    new.isTable = false := by
  cases new with
  | table entries => cases old <;> cases plain
  | _ => rfl

theorem merge_eq_plain_iff {old new v : Value} (plain : v.isTable = false) :
    merge old new = v ↔ new = v := by
  constructor
  · intro merged
    exact (merge_plain old (plain_of_merge (merged ▸ plain))).symm.trans merged
  · rintro rfl
    exact merge_plain old plain

theorem overlay_eq_plain_iff {old new : Option Value} {v : Value} (plain : v.isTable = false) :
    overlay old new = some v ↔ new.or old = some v := by
  cases new with
  | none => rfl
  | some w =>
    cases old with
    | none => rfl
    | some o => exact (Option.some_inj.trans (merge_eq_plain_iff plain)).trans Option.some_inj.symm

theorem at_mergeEntries {old new : Entries} (below : path ≠ []) (keyed : (Value.table new).Keyed)
    (first : Clear path old) (second : Clear path new) :
    (Value.table (mergeEntries old new)).at? path =
      overlay ((Value.table old).at? path) ((Value.table new).at? path) := by
  -- along the path: where both have the first key, the tables behind it are merged in turn
  induction path generalizing old new with
  | nil => exact absurd rfl below
  | cons key path ih =>
    have here := lookup_mergeEntries key old keyed.distinct
    cases path with
    | nil => rw [at_singleton, at_singleton, at_singleton, here]
    | cons next path =>
      rw [at_cons, at_cons, at_cons, here]
      cases given : lookup key new with
      | none => rfl
      | some v =>
        obtain ⟨inner, rfl, clear⟩ := second v given
        cases found : lookup key old with
        | none => exact (overlay_none _).symm
        | some o =>
          obtain ⟨olds, rfl, open_⟩ := first o found
          exact ih (List.cons_ne_nil next path) (keyed.lookup given) open_ clear

theorem Clear.merge {old new : Entries} (keyed : (Value.table new).Keyed) (first : Clear path old)
    (second : Clear path new) : Clear path (mergeEntries old new) := by
  induction path generalizing old new with
  | nil => trivial
  | cons key path ih =>
    cases path with
    | nil => trivial
    | cons next path =>
      intro v merged
      rw [lookup_mergeEntries key old keyed.distinct] at merged
      cases given : lookup key new with
      | none => exact first v (by rw [given] at merged; exact merged)
      | some w =>
        obtain ⟨inner, rfl, clear⟩ := second w given
        cases found : lookup key old with
        | none =>
          rw [given, found] at merged
          exact ⟨inner, (Option.some.inj merged).symm, clear⟩
        | some o =>
          obtain ⟨olds, rfl, open_⟩ := first o found
          rw [given, found] at merged
          exact ⟨_, (Option.some.inj merged).symm, ih (keyed.lookup given) open_ clear⟩

theorem Clear.merged {first : Entries} {layers : List Entries}
    (keyed : ∀ entries ∈ layers, (Value.table entries).Keyed) (start : Clear path first)
    (clear : ∀ entries ∈ layers, Clear path entries) :
    Clear path (layers.foldl mergeEntries first) := by
  induction layers generalizing first with
  | nil => exact start
  | cons entries rest ih =>
    obtain ⟨sound, others⟩ := List.forall_mem_cons.mp keyed
    obtain ⟨here, later⟩ := List.forall_mem_cons.mp clear
    exact ih others (start.merge sound here) later

theorem at_merged {first : Entries} {layers : List Entries} (below : path ≠ [])
    (keyed : ∀ entries ∈ layers, (Value.table entries).Keyed) (start : Clear path first)
    (clear : ∀ entries ∈ layers, Clear path entries) :
    (Value.table (layers.foldl mergeEntries first)).at? path =
      (layers.map fun entries => (Value.table entries).at? path).foldl overlay
        ((Value.table first).at? path) := by
  induction layers generalizing first with
  | nil => rfl
  | cons entries rest ih =>
    obtain ⟨sound, others⟩ := List.forall_mem_cons.mp keyed
    obtain ⟨here, later⟩ := List.forall_mem_cons.mp clear
    rw [List.foldl_cons, ih others (start.merge sound here) later,
      at_mergeEntries below sound start here, List.map_cons, List.foldl_cons]

theorem overlays_reduced (given : List (Option Value)) (first : Option Value) :
    given.foldl overlay first =
      (given.filterMap id).foldl (fun old v => overlay old (some v)) first := by
  induction given generalizing first with
  | nil => rfl
  | cons v rest ih => cases v <;> exact ih _

theorem overlay_isSome (old new : Option Value) :
    (overlay old new).isSome = (new.isSome || old.isSome) := by
  cases new <;> rfl

theorem overlays_isSome (given : List (Option Value)) (first : Option Value) :
    (given.foldl overlay first).isSome = ((given.reverse.findSome? id).or first).isSome := by
  induction given generalizing first with
  | nil => rfl
  | cons v rest ih =>
    rw [List.foldl_cons, ih, List.reverse_cons, List.findSome?_append, Option.or_assoc,
      Option.isSome_or, Option.isSome_or, overlay_isSome]
    cases v <;> rfl

theorem overlays_eq_plain_iff {given : List (Option Value)} {first : Option Value} {v : Value}
    (plain : v.isTable = false) :
    given.foldl overlay first = some v ↔ (given.reverse.findSome? id).or first = some v := by
  induction given generalizing first with
  | nil => rfl
  | cons w rest ih =>
    rw [List.foldl_cons, ih, List.reverse_cons, List.findSome?_append, Option.or_assoc]
    cases rest.reverse.findSome? id with
    | some u => rfl
    | none =>
      rw [Option.none_or, Option.none_or, overlay_eq_plain_iff plain]
      cases w <;> rfl

theorem lastGiven_eq (path : List String) (layers : List Entries) :
    ((layers.map fun entries => (Value.table entries).at? path).reverse.findSome? id) =
      lastGiven? path layers := by
  rw [← List.map_reverse, List.findSome?_map]
  rfl

theorem lastGiven_singleton (path : List String) (entries : Entries) :
    lastGiven? path [entries] = (Value.table entries).at? path := by
  simp [lastGiven?]

theorem lastGiven_append (path : List String) (earlier later : List Entries) :
    lastGiven? path (earlier ++ later) = (lastGiven? path later).or (lastGiven? path earlier) := by
  rw [lastGiven?, List.reverse_append, List.findSome?_append]
  rfl

theorem lookup_merged (key : String) {layers : List Entries}
    (keyed : ∀ entries ∈ layers, (Value.table entries).Keyed) :
    lookup key (layers.foldl mergeEntries []) = (layers.map (lookup key)).foldl overlay none := by
  have merged := at_merged (List.cons_ne_nil key []) keyed (.nothing [key]) fun _ _ => trivial
  simpa only [at_singleton, at_nothing (List.cons_ne_nil key [])] using merged

section
variable {layers : List Entries} (below : path ≠ [])
  (keyed : ∀ entries ∈ layers, (Value.table entries).Keyed)
  (clear : ∀ entries ∈ layers, Clear path entries)
include below keyed clear

theorem at_merged_isSome : ((Value.table (layers.foldl mergeEntries [])).at? path).isSome =
    (lastGiven? path layers).isSome := by
  rw [at_merged below keyed (.nothing path) clear, at_nothing below, overlays_isSome,
    Option.or_none, lastGiven_eq]

theorem at_merged_plain_iff {v : Value} (plain : v.isTable = false) :
    (Value.table (layers.foldl mergeEntries [])).at? path = some v ↔
      lastGiven? path layers = some v := by
  rw [at_merged below keyed (.nothing path) clear, at_nothing below, overlays_eq_plain_iff plain,
    Option.or_none, lastGiven_eq]

theorem lastGiven_regrouped (earlier : List Entries) {v : Value} (plain : v.isTable = false)
    (last : lastGiven? path (earlier ++ [layers.foldl mergeEntries []]) = some v) :
    lastGiven? path (earlier ++ layers) = some v := by
  rw [lastGiven_append, lastGiven_singleton] at last
  rw [lastGiven_append]
  have same := at_merged_isSome below keyed clear
  -- the layers give something at the path exactly when the one that they are merged into does
  cases found : (Value.table (layers.foldl mergeEntries [])).at? path with
  | some w =>
    rw [found, Option.some_or] at last
    obtain rfl := Option.some.inj last
    rw [(at_merged_plain_iff below keyed clear plain).mp found, Option.some_or]
  | none =>
    rw [found] at same last
    rw [Option.isNone_iff_eq_none.mp (Option.isSome_eq_false_iff.mp same.symm)]
    exact last

end

end ClassForge.Value
