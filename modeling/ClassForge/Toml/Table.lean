import ClassForge.Succeeds
import ClassForge.Toml.Fault
import ClassForge.Value

/-!
Tables while a document is read. A table that was only passed on the way to another is implicit; one
made by a dotted key is dotted as well. Of an array of tables only the last element can still grow.
-/
namespace ClassForge.Toml

inductive Item where
  | value (v : Value)
  | table (implicit dotted : Bool) (entries : List (String × Item))
  | tables (elements : List (List (String × Item)))
  deriving Inhabited

structure Table where
  implicit : Bool
  dotted : Bool
  entries : List (String × Item)

namespace Item

mutual

def toValue : Item → Value
  | .value v => v
  | .table _ _ entries => .table (entriesToValues entries)
  | .tables elements => .list (elementsToValues elements)

def entriesToValues : List (String × Item) → List (String × Value)
  | [] => []
  | (k, item) :: rest => (k, toValue item) :: entriesToValues rest

def elementsToValues : List (List (String × Item)) → List Value
  | [] => []
  | e :: rest => .table (entriesToValues e) :: elementsToValues rest

end

theorem entriesToValues_eq (entries : List (String × Item)) :
    entriesToValues entries = entries.map fun e => (e.1, toValue e.2) := by
  induction entries with
  | nil => rfl
  | cons e rest ih => rw [entriesToValues, ih, List.map_cons]

theorem elementsToValues_eq (elements : List (List (String × Item))) :
    elementsToValues elements = elements.map fun e => .table (entriesToValues e) := by
  induction elements with
  | nil => rfl
  | cons e rest ih => rw [elementsToValues, ih, List.map_cons]

/-- Each key stands once in every table of the item. -/
inductive Keyed : Item → Prop where
  | value {v : Value} (keyed : v.Keyed) : Keyed (.value v)
  | table {implicit dotted : Bool} {entries : List (String × Item)}
      (distinct : (entries.map (·.1)).Nodup) (inside : ∀ e ∈ entries, Keyed e.2) :
      Keyed (.table implicit dotted entries)
  | tables {elements : List (List (String × Item))}
      (distinct : ∀ entries ∈ elements, (entries.map (·.1)).Nodup)
      (inside : ∀ entries ∈ elements, ∀ e ∈ entries, Keyed e.2) : Keyed (.tables elements)

theorem keyed_values {entries : List (String × Item)} (distinct : (entries.map (·.1)).Nodup)
    (inside : ∀ e ∈ entries, e.2.toValue.Keyed) : (Value.table (entriesToValues entries)).Keyed := by
  rw [entriesToValues_eq]
  exact .table (by simpa [List.map_map, Function.comp_def] using distinct)
    (List.forall_mem_map.mpr inside)

theorem Keyed.toValue {item : Item} (h : Keyed item) : item.toValue.Keyed := by
  induction h with
  | value keyed => exact keyed
  | table distinct _ ih => exact keyed_values distinct ih
  | tables distinct _ ih =>
    rw [Item.toValue, elementsToValues_eq]
    exact .list (List.forall_mem_map.mpr fun entries among =>
      keyed_values (distinct entries among) (ih entries among))

end Item

namespace Table

def empty : Table := ⟨false, false, []⟩

def toValue (t : Table) : Value := .table (Item.entriesToValues t.entries)

def toItem (t : Table) : Item := .table t.implicit t.dotted t.entries

def find? (t : Table) (key : String) : Option Item :=
  (t.entries.find? (·.1 == key)).map (·.2)

/-- Gives a key an item: at its place where it has one, else at the end. -/
def put (t : Table) (key : String) (item : Item) : Table :=
  { t with entries :=
      if t.entries.any (·.1 == key) then
        t.entries.map fun e => if e.1 == key then (key, item) else e
      else t.entries ++ [(key, item)] }

def erase (t : Table) (key : String) : Table :=
  { t with entries := t.entries.filter (·.1 != key) }

/-- Applies a change to the table at a path. Tables that are not there are made on the way. A dotted
key may not pass a table that is not implicit. -/
def within (dotted : Bool) (f : Table → Except Fault Table) :
    List String → Table → Except Fault Table
  | [], t => f t
  | key :: path, t =>
    match t.find? key with
    | none => (within dotted f path ⟨true, dotted, []⟩).map fun new => t.put key new.toItem
    | some (.value _) => .error (.notTable key)
    | some (.table implicit d entries) =>
      if dotted && !implicit then .error (.duplicateKey key)
      else (within dotted f path ⟨implicit, d, entries⟩).map fun new => t.put key new.toItem
    | some (.tables elements) =>
      match elements.reverse with
      | [] => .error (.notTable key)
      | last :: earlier =>
        (within dotted f path ⟨false, false, last⟩).map fun new =>
          t.put key (.tables ((new.entries :: earlier).reverse))

def insert (t : Table) (path : List String) (key : String) (v : Value) : Except Fault Table :=
  t.within true (fun inner =>
    if inner.dotted == path.isEmpty || (inner.find? key).isSome then .error (.duplicateKey key)
    else .ok (inner.put key (.value v))) path

/-- Each key stands once in the table, and in every table below it. -/
structure Keyed (t : Table) : Prop where
  distinct : (t.entries.map (·.1)).Nodup
  inside : ∀ e ∈ t.entries, e.2.Keyed

namespace Keyed
variable {t t' : Table} {key : String} {item : Item}

theorem nil {implicit dotted : Bool} : Table.Keyed ⟨implicit, dotted, []⟩ := ⟨by simp, by simp⟩

theorem empty : Table.empty.Keyed := nil

theorem toItem (h : t.Keyed) : t.toItem.Keyed := .table h.distinct h.inside

theorem toValue (h : t.Keyed) : t.toValue.Keyed := h.toItem.toValue

theorem found (h : t.Keyed) (there : t.find? key = some item) : item.Keyed := by
  obtain ⟨e, member, rfl⟩ := Option.map_eq_some_iff.mp there
  exact h.inside e (List.mem_of_find?_eq_some member)

theorem below {implicit dotted : Bool} {entries : List (String × Item)} (h : t.Keyed)
    (there : t.find? key = some (.table implicit dotted entries)) :
    Table.Keyed ⟨implicit, dotted, entries⟩ := by
  cases h.found there with
  | table distinct inside => exact ⟨distinct, inside⟩

theorem elements {elements : List (List (String × Item))} (h : t.Keyed)
    (there : t.find? key = some (.tables elements)) :
    (∀ entries ∈ elements, (entries.map (·.1)).Nodup) ∧
      ∀ entries ∈ elements, ∀ e ∈ entries, e.2.Keyed := by
  cases h.found there with
  | tables distinct inside => exact ⟨distinct, inside⟩

theorem put (h : t.Keyed) (given : item.Keyed) : (t.put key item).Keyed := by
  rw [Table.put]
  constructor
  case distinct =>
    dsimp only
    split
    · have same : (t.entries.map fun e => if e.1 == key then (key, item) else e).map (·.1) =
          t.entries.map (·.1) := by
        rw [List.map_map]
        refine List.map_congr_left fun e _ => ?_
        by_cases here : e.1 = key <;> simp [here]
      rw [same]
      exact h.distinct
    · rename_i fresh
      refine (List.map_append ▸ List.nodup_append.mpr ⟨h.distinct, by simp, ?_⟩)
      intro k member k' last same
      obtain ⟨e, among, rfl⟩ := List.mem_map.mp member
      refine fresh (List.any_eq_true.mpr ⟨e, among, ?_⟩)
      simpa [same] using last
  case inside =>
    dsimp only
    split
    · refine List.forall_mem_map.mpr fun e member => ?_
      split
      · exact given
      · exact h.inside e member
    · intro e member
      rcases List.mem_append.mp member with earlier | last
      · exact h.inside e earlier
      · exact List.mem_singleton.mp last ▸ given

theorem erase (h : t.Keyed) : (t.erase key).Keyed :=
  ⟨h.distinct.sublist (List.filter_sublist.map _),
    fun e member => h.inside e (List.mem_filter.mp member).1⟩

theorem within {dotted : Bool} {f : Table → Except Fault Table}
    (keeps : ∀ t t', t.Keyed → f t = .ok t' → t'.Keyed) {path : List String} (h : t.Keyed)
    (changed : t.within dotted f path = .ok t') : t'.Keyed := by
  induction path generalizing t t' with
  | nil => exact keeps t t' h changed
  | cons key path ih =>
    rw [Table.within] at changed
    cases there : t.find? key with
    | none =>
      rw [there] at changed
      obtain ⟨new, made, rfl⟩ := map_succeeds changed
      exact h.put (ih nil made).toItem
    | some item =>
      rw [there] at changed
      cases item with
      | value v => cases changed
      | table implicit d entries =>
        dsimp only at changed
        split at changed
        · cases changed
        · obtain ⟨new, made, rfl⟩ := map_succeeds changed
          exact h.put (ih (h.below there) made).toItem
      | tables elements =>
        obtain ⟨distinct, inside⟩ := h.elements there
        dsimp only at changed
        split at changed
        · cases changed
        · rename_i last earlier split
          have among : ∀ entries ∈ last :: earlier, entries ∈ elements :=
            fun entries member => List.mem_reverse.mp (split ▸ member)
          have here := among last List.mem_cons_self
          obtain ⟨new, made, rfl⟩ := map_succeeds changed
          have grown := ih ⟨distinct last here, inside last here⟩ made
          refine h.put (.tables ?_ ?_) <;> intro entries member <;>
            rcases List.mem_cons.mp (List.mem_reverse.mp member) with rfl | old
          · exact grown.distinct
          · exact distinct entries (among entries (List.mem_cons_of_mem last old))
          · exact grown.inside
          · exact inside entries (among entries (List.mem_cons_of_mem last old))

theorem insert {path : List String} {v : Value} (h : t.Keyed) (given : v.Keyed)
    (inserted : t.insert path key v = .ok t') : t'.Keyed := by
  refine h.within (fun inner inner' keyed changed => ?_) inserted
  split at changed
  · cases changed
  · obtain rfl := Except.ok.inj changed
    exact keyed.put (.value given)

end Keyed
end Table
end ClassForge.Toml
