import ClassForge.Number.Binary64

/-!
Values of settings and manifests. A table lists its keys in the order of the document that it comes
from.
-/
namespace ClassForge

inductive Value where
  | text (s : String)
  | boolean (b : Bool)
  /-- A number written in a document. -/
  | integer (n : Int)
  /-- A number without a sign, from the environment. -/
  | natural (n : Nat)
  | real (x : Number.Binary64)
  | character (c : Char)
  | date (s : String)
  | list (items : List Value)
  | table (entries : List (String × Value))
  deriving Repr, Inhabited

namespace Value

abbrev Entries := List (String × Value)

def lookup (key : String) (entries : Entries) : Option Value :=
  (entries.find? (·.1 == key)).map (·.2)

/-- Gives a key a value: at its place where it has one, else at the end. -/
def put (key : String) (v : Value) : Entries → Entries
  | [] => [(key, v)]
  | (k, old) :: rest => if k = key then (k, v) :: rest else (k, old) :: put key v rest

/-- In every table of the value each key stands once. -/
inductive Keyed : Value → Prop where
  | text (s : String) : Keyed (.text s)
  | boolean (b : Bool) : Keyed (.boolean b)
  | integer (n : Int) : Keyed (.integer n)
  | natural (n : Nat) : Keyed (.natural n)
  | real (x : Number.Binary64) : Keyed (.real x)
  | character (c : Char) : Keyed (.character c)
  | date (s : String) : Keyed (.date s)
  | list {items : List Value} (inside : ∀ v ∈ items, Keyed v) : Keyed (.list items)
  | table {entries : Entries} (distinct : (entries.map (·.1)).Nodup)
      (inside : ∀ e ∈ entries, Keyed e.2) : Keyed (.table entries)

namespace Keyed

theorem distinct {entries : Entries} (h : Keyed (.table entries)) : (entries.map (·.1)).Nodup := by
  cases h
  assumption

theorem inside {entries : Entries} (h : Keyed (.table entries)) : ∀ e ∈ entries, Keyed e.2 := by
  cases h
  assumption

theorem nil : Keyed (.table []) := .table .nil (by simp)

end Keyed

theorem lookup_cons (key k : String) (v : Value) (entries : Entries) :
    lookup key ((k, v) :: entries) = if k = key then some v else lookup key entries := by
  by_cases same : k = key <;> simp [lookup, same]

theorem mem_of_lookup {key : String} {v : Value} {entries : Entries}
    (found : lookup key entries = some v) : (key, v) ∈ entries := by
  induction entries with
  | nil => cases found
  | cons e rest ih =>
    rw [lookup_cons] at found
    split at found
    · obtain rfl := Option.some.inj found
      exact ‹e.1 = key› ▸ List.mem_cons_self
    · exact List.mem_cons_of_mem e (ih found)

theorem lookup_eq_none_iff {key : String} {entries : Entries} :
    lookup key entries = none ↔ key ∉ entries.map (·.1) := by
  induction entries with
  | nil => simp [lookup]
  | cons e rest ih =>
    rw [lookup_cons]
    by_cases same : e.1 = key
    · simp [same]
    · simp [same, ih, Ne.symm same]

theorem lookup_of_mem {key : String} {v : Value} {entries : Entries}
    (distinct : (entries.map (·.1)).Nodup) (member : (key, v) ∈ entries) :
    lookup key entries = some v := by
  induction entries with
  | nil => cases member
  | cons e rest ih =>
    obtain ⟨fresh, later⟩ := List.nodup_cons.mp distinct
    rw [lookup_cons]
    rcases List.mem_cons.mp member with rfl | member
    · simp
    · have other : e.1 ≠ key := fun same => fresh (List.mem_map.mpr ⟨_, member, same.symm⟩)
      rw [if_neg other, ih later member]

theorem Keyed.lookup {key : String} {v : Value} {entries : Entries} (h : Keyed (.table entries))
    (found : lookup key entries = some v) : Keyed v := h.inside _ (mem_of_lookup found)

theorem lookup_put (key k : String) (v : Value) (entries : Entries) :
    lookup key (put k v entries) = if k = key then some v else lookup key entries := by
  induction entries with
  | nil => rw [put, lookup_cons]
  | cons e rest ih =>
    rw [put, lookup_cons]
    split
    · rename_i same
      rw [lookup_cons, same]
      split <;> rfl
    · rename_i other
      rw [lookup_cons, ih]
      by_cases here : e.1 = key
      · rw [if_pos here, if_pos here, if_neg (here ▸ Ne.symm other)]
      · rw [if_neg here, if_neg here]

theorem mem_put {k : String} {v : Value} {entries : Entries} {e : String × Value}
    (member : e ∈ put k v entries) : e = (k, v) ∨ e ∈ entries := by
  induction entries with
  | nil => exact Or.inl (List.mem_singleton.mp member)
  | cons first rest ih =>
    rw [put] at member
    split at member
    · rename_i same
      rcases List.mem_cons.mp member with rfl | later
      · exact Or.inl (same ▸ rfl)
      · exact Or.inr (List.mem_cons_of_mem first later)
    · rcases List.mem_cons.mp member with rfl | later
      · exact Or.inr List.mem_cons_self
      · exact (ih later).imp_right (List.mem_cons_of_mem first)

theorem put_distinct (k : String) (v : Value) {entries : Entries}
    (distinct : (entries.map (·.1)).Nodup) : ((put k v entries).map (·.1)).Nodup := by
  induction entries with
  | nil => simp [put]
  | cons e rest ih =>
    obtain ⟨fresh, later⟩ := List.nodup_cons.mp distinct
    rw [put]
    split
    · exact distinct
    · rename_i other
      refine List.nodup_cons.mpr ⟨fun repeated => ?_, ih later⟩
      obtain ⟨e', member, named⟩ := List.mem_map.mp repeated
      rcases mem_put member with rfl | member
      · exact other named.symm
      · exact fresh (List.mem_map.mpr ⟨e', member, named⟩)

theorem Keyed.put {k : String} {v : Value} {entries : Entries} (h : Keyed (.table entries))
    (given : Keyed v) : Keyed (.table (put k v entries)) := by
  refine .table (put_distinct k v h.distinct) fun e member => ?_
  rcases mem_put member with rfl | member
  · exact given
  · exact h.inside e member

mutual

/-- Tables are merged key by key; any other value takes the place of the old one. -/
def merge (old : Value) : Value → Value
  | .table new =>
    match old with
    | .table entries => .table (mergeEntries entries new)
    | _ => .table new
  | v => v

def mergeEntries (old : Entries) : Entries → Entries
  | [] => old
  | (k, v) :: rest =>
    let merged := match lookup k old with
      | some o => merge o v
      | none => v
    mergeEntries (put k merged old) rest

end

/-- What comes of an old value and a new one, either of which may be missing. -/
def overlay (old new : Option Value) : Option Value :=
  match new with
  | none => old
  | some v => some (match old with
    | some o => merge o v
    | none => v)

theorem lookup_mergeEntries (key : String) (old : Entries) {new : Entries}
    (distinct : (new.map (·.1)).Nodup) :
    lookup key (mergeEntries old new) = overlay (lookup key old) (lookup key new) := by
  induction new generalizing old with
  | nil => rfl
  | cons e rest ih =>
    obtain ⟨k, v⟩ := e
    obtain ⟨fresh, later⟩ := List.nodup_cons.mp distinct
    rw [mergeEntries, ih _ later, lookup_put, lookup_cons]
    by_cases same : k = key
    · subst same
      rw [lookup_eq_none_iff.mpr fresh, if_pos rfl, if_pos rfl]
      rfl
    · rw [if_neg same, if_neg same]

mutual

theorem Keyed.merge {old new : Value} (first : Keyed old) (second : Keyed new) :
    Keyed (merge old new) := by
  cases new with
  | table entries =>
    cases old with
    | table olds => exact first.mergeEntries second
    | _ => exact second
  | _ => exact second

theorem Keyed.mergeEntries {old new : Entries} (first : Keyed (.table old))
    (second : Keyed (.table new)) : Keyed (.table (mergeEntries old new)) := by
  cases new with
  | nil => exact first
  | cons e rest =>
    obtain ⟨k, v⟩ := e
    obtain ⟨given, later⟩ := List.forall_mem_cons.mp second.inside
    have others : Keyed (.table rest) := .table (List.nodup_cons.mp second.distinct).2 later
    rw [Value.mergeEntries]
    refine Keyed.mergeEntries (first.put ?_) others
    cases found : Value.lookup k old with
    | none => exact given
    | some o => exact (first.lookup found).merge given

end

theorem Keyed.merged {first : Entries} {layers : List Entries} (start : Keyed (.table first))
    (keyed : ∀ es ∈ layers, Keyed (.table es)) :
    Keyed (.table (layers.foldl Value.mergeEntries first)) := by
  induction layers generalizing first with
  | nil => exact start
  | cons es rest ih =>
    obtain ⟨here, later⟩ := List.forall_mem_cons.mp keyed
    exact ih (start.mergeEntries here) later

private def insertSorted (entry : String × Value) : Entries → Entries
  | [] => [entry]
  | e :: rest => if entry.1 < e.1 then entry :: e :: rest else e :: insertSorted entry rest

mutual

def sorted : Value → Value
  | .list items => .list (sortedItems items)
  | .table entries => .table (sortedEntries entries)
  | v => v

def sortedItems : List Value → List Value
  | [] => []
  | v :: vs => sorted v :: sortedItems vs

def sortedEntries : Entries → Entries
  | [] => []
  | (k, v) :: rest => insertSorted (k, sorted v) (sortedEntries rest)

end

private theorem insertSorted_perm (entry : String × Value) (entries : Entries) :
    (insertSorted entry entries).Perm (entry :: entries) := by
  induction entries with
  | nil => exact .refl _
  | cons e rest ih =>
    rw [insertSorted]
    split
    · exact .refl _
    · exact (ih.cons e).trans (.swap entry e rest)

theorem sortedEntries_perm (entries : Entries) :
    (sortedEntries entries).Perm (entries.map fun e => (e.1, sorted e.2)) := by
  induction entries with
  | nil => exact .refl _
  | cons e rest ih =>
    rw [sortedEntries, List.map_cons]
    exact (insertSorted_perm _ _).trans (ih.cons _)

theorem sortedEntries_distinct {entries : Entries} (distinct : (entries.map (·.1)).Nodup) :
    ((sortedEntries entries).map (·.1)).Nodup := by
  refine ((sortedEntries_perm entries).map (·.1)).nodup_iff.mpr ?_
  simpa [List.map_map, Function.comp_def] using distinct

theorem lookup_sortedEntries (key : String) {entries : Entries}
    (distinct : (entries.map (·.1)).Nodup) :
    lookup key (sortedEntries entries) = (lookup key entries).map sorted := by
  have perm := sortedEntries_perm entries
  cases found : lookup key entries with
  | some v =>
    refine lookup_of_mem (sortedEntries_distinct distinct) (perm.mem_iff.mpr ?_)
    exact List.mem_map.mpr ⟨(key, v), mem_of_lookup found, rfl⟩
  | none =>
    refine lookup_eq_none_iff.mpr fun member => lookup_eq_none_iff.mp found ?_
    have keys := (perm.map (·.1)).mem_iff.mp member
    simpa [List.map_map, Function.comp_def] using keys

/-- The key under which the text of a date is kept where a table is wanted. -/
def dateKey : String := "$__toml_private_datetime"

mutual

def datesAsTables : Value → Value
  | .date s => .table [(dateKey, .text s)]
  | .list items => .list (datesInItems items)
  | .table entries => .table (datesInEntries entries)
  | v => v

def datesInItems : List Value → List Value
  | [] => []
  | v :: vs => datesAsTables v :: datesInItems vs

def datesInEntries : Entries → Entries
  | [] => []
  | (k, v) :: rest => (k, datesAsTables v) :: datesInEntries rest

end

theorem datesInItems_eq (items : List Value) : datesInItems items = items.map datesAsTables := by
  induction items with
  | nil => rfl
  | cons v vs ih => rw [datesInItems, ih, List.map_cons]

theorem datesInEntries_eq (entries : Entries) :
    datesInEntries entries = entries.map fun e => (e.1, datesAsTables e.2) := by
  induction entries with
  | nil => rfl
  | cons e rest ih => rw [datesInEntries, ih, List.map_cons]

theorem Keyed.datesAsTables {v : Value} (h : Keyed v) : Keyed (datesAsTables v) := by
  induction h with
  | date s => exact .table (by simp) (by simpa using Keyed.text s)
  | list _ ih =>
    rw [Value.datesAsTables, datesInItems_eq]
    exact .list (by simpa using ih)
  | table distinct _ ih =>
    rw [Value.datesAsTables, datesInEntries_eq]
    exact .table (by simpa [List.map_map, Function.comp_def] using distinct)
      (List.forall_mem_map.mpr ih)
  | _ => constructor

def at? (v : Value) : List String → Option Value
  | [] => some v
  | key :: path =>
    match v with
    | .table entries => (lookup key entries).bind (at? · path)
    | .list items =>
      (Number.readUnsigned? 10 items.length key.toList).bind fun i => items[i]?.bind (at? · path)
    | _ => none

end Value
end ClassForge
