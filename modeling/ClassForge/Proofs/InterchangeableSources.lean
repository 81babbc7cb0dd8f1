import ClassForge.Proofs.DirectoryAccesses
import ClassForge.Proofs.ElementFold
import ClassForge.Proofs.SourceSimulation
import ClassForge.Proofs.TreePaths
import ClassForge.Source.Archive
import ClassForge.Source.Memory
import Mathlib.Data.List.Forall2
import Mathlib.Data.List.Nodup

/-!
Memory, archives and directories are interchangeable as sources. An entry in memory mirrors the
entry of an archive that holds the same bytes; files below a directory hold what the entries in
memory say, if their paths are in order, no two are the same and all can be written. Either relation
is kept by whatever an engine does with an element, and so by whole runs.
-/
namespace ClassForge.Source
open List (Forall₂)

/-- The places of the entries that are to come, the first of which is at `i`. -/
def upcoming (i : Nat) (pairs : List (String × Bytes)) : List Place :=
  (pairs.zipIdx i).map fun (p, j) => ⟨j, p.1⟩

theorem stock_names (pairs : List (String × Bytes)) :
    (Stock.ofPairs pairs).names = pairs.map (·.1) := by
  simp [Stock.names, Stock.ofPairs]

theorem ledger_names (pairs : List (String × Bytes)) :
    (Ledger.ofFiles pairs).names = pairs.map (·.1) := by
  simp [Ledger.names, Ledger.ofFiles]

theorem places_eq (pairs : List (String × Bytes)) :
    places (pairs.map (·.1)) = upcoming 0 pairs := by
  simp [places, upcoming, List.zipIdx_map]

theorem upcoming_names (i : Nat) (pairs : List (String × Bytes)) :
    (upcoming i pairs).map (·.name) = pairs.map (·.1) := by
  induction pairs generalizing i with
  | nil => rfl
  | cons p pairs ih => exact congrArg (p.1 :: ·) (ih (i + 1))

theorem upcoming_cons (i : Nat) (p : String × Bytes) (pairs : List (String × Bytes)) :
    upcoming i (p :: pairs) = ⟨i, p.1⟩ :: upcoming (i + 1) pairs := rfl

theorem upcoming_uncons {α : Type} {hand : Place → α} {i : Nat} {x : α} {rest : List α}
    {todo : List (String × Bytes)} (items : x :: rest = (upcoming i todo).map hand) :
    ∃ p later, todo = p :: later ∧ x = hand ⟨i, p.1⟩ ∧
      rest = (upcoming (i + 1) later).map hand := by
  cases todo with
  | nil => simp [upcoming] at items
  | cons p later =>
    rw [upcoming_cons, List.map_cons] at items
    obtain ⟨first, others⟩ := List.cons.inj items
    exact ⟨p, later, rfl, first, others⟩

theorem modify_next {α : Type} (done todo : List α) (x : α) (f : α → α) :
    (done ++ x :: todo).modify done.length f = done ++ f x :: todo := by
  induction done with
  | nil => rfl
  | cons first done ih => exact congrArg (first :: ·) ih

/-- An entry in memory shows what the ledger says of the same entry of an archive. -/
structure Mirrors (s : Stored) (l : LedgerEntry) : Prop where
  name : s.name = l.name
  bytes : s.bytes = l.bytes
  replaced : s.replaced = true ↔ ∃ a, l.disposition = .replaced a

theorem pending_mirrors (p : String × Bytes) : Mirrors ⟨p.1, p.2, false⟩ ⟨p.1, p.2, .pending⟩ :=
  ⟨rfl, rfl, by simp⟩

/-- Entries in memory and in a ledger, of which those in `done` are dealt with. -/
structure MirroredAfter (pairs todo : List (String × Bytes)) (done : List (Stored × LedgerEntry))
    (stock : Stock) (ledger : Ledger) : Prop where
  stock : stock = done.map Prod.fst ++ Stock.ofPairs todo
  ledger : ledger = done.map Prod.snd ++ Ledger.ofFiles todo
  initial : pairs = done.map (fun d => (d.2.name, d.2.initial)) ++ todo
  mirrors : ∀ d ∈ done, Mirrors d.1 d.2

def Mirrored (pairs : List (String × Bytes)) (items : List (Place × Place)) (stock : Stock)
    (ledger : Ledger) : Prop :=
  ∃ done todo, items = (upcoming done.length todo).map (fun x => (x, x)) ∧
    MirroredAfter pairs todo done stock ledger

theorem mirrored_cons {pairs : List (String × Bytes)} {x x' : Place} {rest : List (Place × Place)}
    {stock : Stock} {ledger : Ledger} (h : Mirrored pairs ((x, x') :: rest) stock ledger) :
    ∃ done p todo, x = ⟨done.length, p.1⟩ ∧ x' = ⟨done.length, p.1⟩ ∧
      rest = (upcoming (done.length + 1) todo).map (fun x => (x, x)) ∧
      MirroredAfter pairs (p :: todo) done stock ledger := by
  obtain ⟨done, _, items, after⟩ := h
  obtain ⟨p, todo, rfl, first, later⟩ := upcoming_uncons items
  obtain ⟨rfl, rfl⟩ := Prod.mk.inj first
  exact ⟨done, p, todo, rfl, rfl, later, after⟩

theorem mirroredAfter_next {pairs todo : List (String × Bytes)} {p : String × Bytes}
    {done : List (Stored × LedgerEntry)} {stock : Stock} {ledger : Ledger}
    (h : MirroredAfter pairs (p :: todo) done stock ledger) (d : Stored × LedgerEntry)
    (same : (d.2.name, d.2.initial) = p) (mirrors : Mirrors d.1 d.2) :
    MirroredAfter pairs todo (done ++ [d]) (done.map Prod.fst ++ d.1 :: Stock.ofPairs todo)
      (done.map Prod.snd ++ d.2 :: Ledger.ofFiles todo) where
  stock := by simp
  ledger := by simp
  initial := by simp [h.initial, same]
  mirrors := by
    simp only [List.forall_mem_append, List.forall_mem_singleton]
    exact ⟨h.mirrors, mirrors⟩

theorem ofPairs_cons (p : String × Bytes) (todo : List (String × Bytes)) :
    Stock.ofPairs (p :: todo) = ⟨p.1, p.2, false⟩ :: Stock.ofPairs todo := rfl

theorem replace_next (done todo : Stock) (s : Stored) (name : String) (a : Artifact) :
    Stock.replace ⟨done.length, name⟩ a (done ++ s :: todo) =
      (.ok (), done ++ { s with bytes := a.bytes, replaced := true } :: todo) := by
  have there : done.length < (done ++ s :: todo).length := by simp
  rw [Stock.replace, if_pos there, modify_next]

theorem ledger_next (done : List (Stored × LedgerEntry)) (p : String × Bytes)
    (todo : List (String × Bytes)) (d : Disposition) :
    Ledger.set done.length d (done.map Prod.snd ++ Ledger.ofFiles (p :: todo)) =
      done.map Prod.snd ++ ⟨p.1, p.2, d⟩ :: Ledger.ofFiles todo := by
  have next := modify_next (done.map Prod.snd) (Ledger.ofFiles todo) ⟨p.1, p.2, .pending⟩
    fun e => { e with disposition := d }
  rw [List.length_map] at next
  exact next

/-- An engine goes the same way over entries in memory as over those of an archive. -/
theorem memory_simulates_archive (pairs : List (String × Bytes)) :
    Simulation inMemory inArchive (Mirrored pairs) where
  name h := by
    obtain ⟨done, p, todo, rfl, rfl, -⟩ := mirrored_cons h
    rfl
  handOut h := h
  retain h := by
    obtain ⟨done, p, todo, rfl, rfl, rfl, after⟩ := mirrored_cons h
    let d : Stored × LedgerEntry := (⟨p.1, p.2, false⟩, ⟨p.1, p.2, .retained⟩)
    refine ⟨done ++ [d], todo, by simp, ?_⟩
    have next := mirroredAfter_next after d rfl ⟨rfl, rfl, by simp [d]⟩
    rw [after.stock, after.ledger]
    rw [← ledger_next done p todo] at next
    exact next
  replace a h := by
    obtain ⟨done, p, todo, rfl, rfl, rfl, after⟩ := mirrored_cons h
    let d : Stored × LedgerEntry := (⟨p.1, a.bytes, true⟩, ⟨p.1, p.2, .replaced a⟩)
    have next := mirroredAfter_next after d rfl ⟨rfl, rfl, by simp [d]⟩
    rw [← ledger_next done p todo] at next
    have replaced := replace_next (done.map Prod.fst) (Stock.ofPairs todo) ⟨p.1, p.2, false⟩ p.1 a
    rw [List.length_map] at replaced
    rw [after.stock, after.ledger, ofPairs_cons]
    change (Stock.replace _ _ _).1 = _ ∧ Mirrored pairs _ (Stock.replace _ _ _).2 _
    refine ⟨congrArg Prod.fst replaced, done ++ [d], todo, by simp, ?_⟩
    rw [replaced]
    exact next
  close h := ⟨rfl, h⟩

theorem mirrored_at_last {pairs : List (String × Bytes)} {stock : Stock} {ledger : Ledger}
    (h : RelatedAtLast (Mirrored pairs) stock ledger) :
    Forall₂ Mirrors stock ledger ∧ ledger.map (fun l => (l.name, l.initial)) = pairs := by
  obtain ⟨_, done, todo, -, rfl, rfl, initial, mirrors⟩ := h
  constructor
  · refine List.rel_append ?_ ?_
    · rw [List.forall₂_map_left_iff, List.forall₂_map_right_iff, List.forall₂_same]
      exact mirrors
    · rw [Stock.ofPairs, Ledger.ofFiles, List.forall₂_map_left_iff, List.forall₂_map_right_iff,
        List.forall₂_same]
      exact fun p _ => pending_mirrors p
  · simp [initial, Ledger.ofFiles, Function.comp_def]

theorem mem_between {α : Type} {done todo : List α} {x y : α} :
    y ∈ done ++ x :: todo ↔ y = x ∨ y ∈ done ∨ y ∈ todo := by
  rw [List.mem_append, List.mem_cons, or_left_comm]

/-- What the entries in memory say of a tree that was `tree` before the run: their bytes are in the
files at their spots, and nothing was written anywhere else. -/
structure OnDisk (tree : FileTree) (spot : String → List String) (stock : Stock)
    (after : FileTree) : Prop where
  kinds : ∀ place, after.kindAt? place = tree.kindAt? place
  entries : ∀ s ∈ stock, after.contentAt? (spot s.name) = some s.bytes
  elsewhere : ∀ place, (∀ s ∈ stock, s.replaced = true → place ≠ spot s.name) →
    after.contentAt? place = tree.contentAt? place

section
variable {tree after : FileTree} {spot : String → List String}
  (apart : ∀ name name', spot name = spot name' → name = name')

include apart in
theorem OnDisk.overwritten {done todo : Stock} {s : Stored}
    (h : OnDisk tree spot (done ++ s :: todo) after)
    (distinct : (done ++ s :: todo).names.Nodup) (content : Bytes) :
    OnDisk tree spot (done ++ { s with bytes := content, replaced := true } :: todo)
      (after.setAt (spot s.name) (.file content)) := by
  have here := h.entries s (by simp)
  have others : ∀ e, e ∈ done ∨ e ∈ todo → spot e.name ≠ spot s.name := by
    intro e among same
    rw [Stock.names, List.map_append, List.map_cons, List.nodup_middle, List.nodup_cons,
      ← List.map_append] at distinct
    exact distinct.1 (List.mem_map.mpr ⟨e, List.mem_append.mpr among, apart _ _ same⟩)
  constructor
  · intro place
    rw [FileTree.kindAt?_overwritten here, h.kinds]
  · intro e member
    rw [FileTree.contentAt?_overwritten here]
    rcases mem_between.mp member with rfl | other
    · exact if_pos rfl
    · rw [if_neg (others e other)]
      exact h.entries e (mem_between.mpr (.inr other))
  · intro place unwritten
    have untouched : place ≠ spot s.name :=
      unwritten { s with bytes := content, replaced := true } (mem_between.mpr (.inl rfl)) rfl
    rw [FileTree.contentAt?_overwritten here, if_neg untouched]
    refine h.elsewhere place fun e member replaced => ?_
    rcases mem_between.mp member with rfl | other
    · exact untouched
    · exact unwritten e (mem_between.mpr (.inr other)) replaced

end

def Filed (pairs : List (String × Bytes)) (tree : FileTree) (spot : String → List String)
    (items : List (Place × String)) (stock : Stock) (after : FileTree) : Prop :=
  ∃ done todo, items = (upcoming done.length todo).map (fun x => (x, x.name)) ∧
    stock = done ++ Stock.ofPairs todo ∧ stock.names = pairs.map (·.1) ∧
    OnDisk tree spot stock after

theorem filed_cons {pairs : List (String × Bytes)} {tree : FileTree} {spot : String → List String}
    {x : Place} {name : String} {rest : List (Place × String)} {stock : Stock} {after : FileTree}
    (h : Filed pairs tree spot ((x, name) :: rest) stock after) :
    ∃ (done : Stock) (p : String × Bytes) (todo : List (String × Bytes)),
      x = ⟨done.length, p.1⟩ ∧ name = p.1 ∧
      rest = (upcoming (done.length + 1) todo).map (fun x => (x, x.name)) ∧
      stock = done ++ ⟨p.1, p.2, false⟩ :: Stock.ofPairs todo ∧ stock.names = pairs.map (·.1) ∧
      OnDisk tree spot stock after := by
  obtain ⟨done, _, items, whole, names, onDisk⟩ := h
  obtain ⟨p, todo, rfl, first, later⟩ := upcoming_uncons items
  obtain ⟨rfl, rfl⟩ := Prod.mk.inj first
  exact ⟨done, p, todo, rfl, rfl, later, whole, names, onDisk⟩

theorem memory_simulates_directory {pairs : List (String × Bytes)} {tree : FileTree}
    {spot : String → List String} {workingDirectory root : String}
    (apart : ∀ name name', spot name = spot name' → name = name')
    (distinct : (pairs.map (·.1)).Nodup)
    (located : ∀ name ∈ pairs.map (·.1),
      tree.locate workingDirectory (fileBelow root name) = .ok (spot name)) :
    Simulation inMemory (inDirectory workingDirectory root) (Filed pairs tree spot) where
  name h := by
    obtain ⟨done, p, todo, rfl, rfl, -⟩ := filed_cons h
    rfl
  handOut h := h
  retain h := by
    obtain ⟨done, p, todo, rfl, rfl, rfl, rfl, names, onDisk⟩ := filed_cons h
    exact ⟨done ++ [⟨p.1, p.2, false⟩], todo, by simp, by simp [inMemory], names, onDisk⟩
  replace a h := by
    rename_i after
    obtain ⟨done, p, todo, rfl, rfl, rfl, rfl, names, onDisk⟩ := filed_cons h
    have kept : ⟨p.1, p.2, false⟩ ∈ done ++ (⟨p.1, p.2, false⟩ : Stored) :: Stock.ofPairs todo :=
      mem_between.mpr (.inl rfl)
    have known : p.1 ∈ pairs.map (·.1) := names ▸ List.mem_map.mpr ⟨_, kept, rfl⟩
    -- What was overwritten before changed no kinds, so the path leads where it did.
    have arrives : after.locate workingDirectory (fileBelow root p.1) = .ok (spot p.1) := by
      rw [FileTree.locate_of_kinds onDisk.kinds, located p.1 known]
    have overwritten : overwrite {} workingDirectory root p.1 a after =
        (.ok (), after.setAt (spot p.1) (.file a.bytes)) := by
      have done := overwrite_located {} a arrives (onDisk.entries _ kept)
      simpa only [portion_untroubled] using done
    have replaced := replace_next done (Stock.ofPairs todo) ⟨p.1, p.2, false⟩ p.1 a
    change (Stock.replace _ _ _).1 = (overwrite _ _ _ _ _ _).1 ∧
      Filed pairs tree spot _ (Stock.replace _ _ _).2 (overwrite _ _ _ _ _ _).2
    rw [replaced, overwritten]
    refine ⟨rfl, done ++ [⟨p.1, a.bytes, true⟩], todo, by simp, by simp, ?_, ?_⟩
    · rw [← names]
      simp [Stock.names]
    · exact onDisk.overwritten apart (names ▸ distinct) a.bytes
  close h := ⟨rfl, h⟩

/-- A directory, the files of which are known, and which may be written. All other directories below
it can be opened. -/
structure Houses (tree : FileTree) (workingDirectory root : String) (pairs : List (String × Bytes))
    (entries : List (String × FileTree)) : Prop where
  opened : tree.stat workingDirectory root = .ok (.directory entries)
  wellFormed : (FileTree.directory entries).WellFormed
  files : (FileTree.directory entries).files.Perm pairs
  sorted : pairs.Pairwise (·.1 < ·.1)
  writable : ∀ p ∈ pairs, ∀ content, ∃ after,
    tree.write workingDirectory (fileBelow root p.1) content = .ok after
  /-- A path that is taken to a file is taken to its directory, but there may be no file. -/
  bare : ∀ path inner, path ≠ [] →
    (FileTree.directory entries).nodeAt? path = some (.directory inner) →
    (FileTree.directory inner).files = [] →
      ∃ node, tree.stat workingDirectory (fileBelow root ("/".intercalate path)) = .ok node

theorem sortNames_eq {names sorted : List String} (same : names.Perm sorted)
    (ordered : sorted.Pairwise (· < ·)) : sortNames names = sorted := by
  have perm : (sortNames names).Perm sorted := (List.mergeSort_perm _ _).trans same
  have increasing : (sortNames names).Pairwise fun a b => ¬ b < a := mergeSort_ascends id names
  refine @List.Perm.eq_of_pairwise _ (fun a b => ¬ b < a) _ _ (fun a b _ _ ab ba => ?_)
    increasing (ordered.imp Std.not_gt_of_lt) perm
  exact Std.le_antisymm (Std.not_lt.mp ab) (Std.not_lt.mp ba)

section
variable {tree : FileTree} {workingDirectory root : String} {pairs : List (String × Bytes)}
  {entries : List (String × FileTree)} (housed : Houses tree workingDirectory root pairs entries)
include housed

theorem Houses.distinct : (pairs.map (·.1)).Nodup := by
  rw [List.Nodup, List.pairwise_map]
  refine housed.sorted.imp ?_
  intro p q less same
  rw [same] at less
  exact Std.lt_irrefl less

theorem Houses.spots : ∃ base, ∀ p ∈ pairs,
    tree.locate workingDirectory (fileBelow root p.1) = .ok (base ++ FileTree.components p.1) ∧
      tree.contentAt? (base ++ FileTree.components p.1) = some p.2 := by
  obtain ⟨base, located, found⟩ := FileTree.located_of_stat housed.opened
  refine ⟨base, fun p member => ?_⟩
  -- That a file can be written says that its path leads somewhere, but not yet where.
  obtain ⟨after, written⟩ := housed.writable p member []
  obtain ⟨place, arrives⟩ := FileTree.located_of_written written
  have stands := FileTree.standsIn_of_mem housed.wellFormed p (housed.files.mem_iff.mpr member)
  obtain ⟨rfl, there⟩ := FileTree.located_below located found stands arrives
  exact ⟨arrives, there⟩

theorem Houses.opens {path : List String} {inner : List (String × FileTree)} (proper : path ≠ [])
    (there : (FileTree.directory entries).nodeAt? path = some (.directory inner)) :
    ∃ node, tree.stat workingDirectory (fileBelow root ("/".intercalate path)) = .ok node := by
  obtain ⟨base, located, found⟩ := FileTree.located_of_stat housed.opened
  cases files : (FileTree.directory inner).files with
  | nil => exact housed.bare path inner proper there files
  | cons f others =>
    let file := "/".intercalate path ++ "/" ++ f.1
    have listed : (file, f.2) ∈ (FileTree.directory entries).files :=
      FileTree.mem_files_below proper there (files ▸ List.mem_cons_self)
    have stands := FileTree.standsIn_of_mem housed.wellFormed _ listed
    have joined : "/".intercalate (FileTree.components file) = file :=
      FileTree.intercalate_components stands.named
    have cut : FileTree.components file = path ++ FileTree.components f.1 :=
      FileTree.components_append (FileTree.named_of_nodeAt? housed.wellFormed there) proper f.1
    -- The file can be written, so its path is taken.
    obtain ⟨after, written⟩ := housed.writable _ (housed.files.mem_iff.mp listed) []
    obtain ⟨place, arrives⟩ := FileTree.located_of_written written
    have leads := FileTree.locate_below located found housed.wellFormed (by simp [cut, proper])
      (FileTree.nodeAt?_of_contentAt? stands.there) (by simp)
    rw [joined, arrives] at leads
    have taken : FileTree.pathFault?
        (fileBelow root ("/".intercalate (path ++ FileTree.components f.1)))
        (path ++ FileTree.components f.1) = none := by
      rw [← cut, joined]
      cases fault : FileTree.pathFault? (fileBelow root file) (FileTree.components file) with
      | none => rfl
      | some refused => simp [fault] at leads
    have some : FileTree.components f.1 ≠ [] := by simp [FileTree.components, Text.pieces_ne_nil]
    rw [FileTree.stat_below located found housed.wellFormed proper there (by simp),
      taken_above proper some taken]
    exact ⟨_, rfl⟩

theorem Houses.granted :
    firstRefusal? {} tree workingDirectory (search root (.directory entries)) = none := by
  rw [firstRefusal?, List.findSome?_eq_none_iff]
  intro a asked
  rw [Option.map_eq_none_iff]
  cases a with
  | opening directory =>
    have opens : ∃ node, tree.stat workingDirectory directory = .ok node := by
      obtain rfl | ⟨path, inner, proper, there, rfl⟩ := opened_below housed.wellFormed asked
      · exact ⟨_, housed.opened⟩
      · exact housed.opens proper there
    obtain ⟨node, opened⟩ := opens
    simp only [refusal?, opened]
  | listing directory index => rfl
  | inspecting path => rfl
  | emptying file => rfl

theorem Houses.source : ofDirectory tree workingDirectory root =
    .ok (overDirectory tree workingDirectory root (pairs.map (·.1))) := by
  have sorted : sortNames ((FileTree.directory entries).files.map (·.1)) = pairs.map (·.1) :=
    sortNames_eq (housed.files.map _) (List.pairwise_map.mpr housed.sorted)
  rw [ofDirectory_eq {} housed.opened, housed.granted, sorted]

end

structure Rewritten (tree : FileTree) (workingDirectory root : String) (stock : Stock)
    (after : FileTree) : Prop where
  kinds : ∀ place, after.kindAt? place = tree.kindAt? place
  entries : ∀ s ∈ stock, after.read workingDirectory (fileBelow root s.name) = .ok s.bytes
  elsewhere : ∀ place, (∀ s ∈ stock, s.replaced = true →
      tree.locate workingDirectory (fileBelow root s.name) ≠ .ok place) →
    after.contentAt? place = tree.contentAt? place

section
variable {ρ σ B : Type} [Builder B] (e : Engine ρ σ B) (pairs : List (String × Bytes)) (pool : ρ)
  (world : σ)

theorem runs_mirror :
    (e.run (ofStock (Stock.ofPairs pairs)) pool world).Alike
      (fun stock ledger => Forall₂ Mirrors stock ledger ∧
        ledger.map (fun l => (l.name, l.initial)) = pairs)
      (e.run (ofLedger (Ledger.ofFiles pairs)) pool world) := by
  have fresh : Mirrored pairs ((upcoming 0 pairs).map fun x => (x, x)) (Stock.ofPairs pairs)
      (Ledger.ofFiles pairs) := ⟨[], pairs, rfl, rfl, rfl, rfl, nofun⟩
  have alike : (e.run (ofStock (Stock.ofPairs pairs)) pool world).Alike
      (RelatedAtLast (Mirrored pairs)) (e.run (ofLedger (Ledger.ofFiles pairs)) pool world) :=
    (memory_simulates_archive pairs).run_alike e rfl rfl
      (by simp [ofStock, stock_names, places_eq, Function.comp_def])
      (by simp [ofLedger, ledger_names, places_eq, Function.comp_def]) fresh pool world
  exact alike.imp fun _ _ => mirrored_at_last

theorem Houses.runs_rewrite {tree : FileTree} {workingDirectory root : String}
    {entries : List (String × FileTree)}
    (housed : Houses tree workingDirectory root pairs entries) :
    ∃ source, ofDirectory tree workingDirectory root = .ok source ∧
      (e.run (ofStock (Stock.ofPairs pairs)) pool world).Alike
        (Rewritten tree workingDirectory root) (e.run source pool world) := by
  obtain ⟨base, spots⟩ := housed.spots
  let spot : String → List String := fun name => base ++ FileTree.components name
  have apart : ∀ name name', spot name = spot name' → name = name' := fun name name' same =>
    FileTree.components_injective (List.append_cancel_left same)
  have located : ∀ name ∈ pairs.map (·.1),
      tree.locate workingDirectory (fileBelow root name) = .ok (spot name) := by
    intro name member
    obtain ⟨p, among, rfl⟩ := List.mem_map.mp member
    exact (spots p among).1
  have fresh : Filed pairs tree spot ((upcoming 0 pairs).map fun x => (x, x.name))
      (Stock.ofPairs pairs) tree := by
    refine ⟨[], pairs, rfl, rfl, stock_names pairs, fun _ => rfl, ?_, fun _ _ => rfl⟩
    intro s member
    obtain ⟨p, among, rfl⟩ := List.mem_map.mp member
    exact (spots p among).2
  let source := overDirectory tree workingDirectory root (pairs.map (·.1))
  refine ⟨source, housed.source, ?_⟩
  have alike : (e.run (ofStock (Stock.ofPairs pairs)) pool world).Alike
      (RelatedAtLast (Filed pairs tree spot)) (e.run source pool world) :=
    (memory_simulates_directory apart housed.distinct located).run_alike e rfl rfl
      (by simp [ofStock, stock_names, places_eq, Function.comp_def])
      (by simp [source, overDirectory, ← upcoming_names 0 pairs, Function.comp_def])
      fresh pool world
  refine alike.imp ?_
  rintro stock after ⟨_, done, todo, -, -, names, onDisk⟩
  have known : ∀ s ∈ stock, s.name ∈ pairs.map (·.1) := fun s member =>
    names ▸ List.mem_map_of_mem member
  constructor
  · exact onDisk.kinds
  · intro s member
    have arrives := located s.name (known s member)
    rw [← FileTree.locate_of_kinds onDisk.kinds] at arrives
    exact FileTree.read_located arrives (onDisk.entries s member)
  · intro place unwritten
    refine onDisk.elsewhere place fun s member replaced same => ?_
    exact unwritten s member replaced (same ▸ located s.name (known s member))

/-- Over the same entries in memory, in an archive and, if they are files, below a directory, an
engine comes to the same result by the same events, and each place ends up with the same bytes. -/
theorem sources_interchangeable :
    (e.run (ofStock (Stock.ofPairs pairs)) pool world).Alike
      (fun stock ledger => Forall₂ Mirrors stock ledger ∧
        ledger.map (fun l => (l.name, l.initial)) = pairs)
      (e.run (ofLedger (Ledger.ofFiles pairs)) pool world) ∧
    ∀ tree workingDirectory root entries, Houses tree workingDirectory root pairs entries →
      ∃ source, ofDirectory tree workingDirectory root = .ok source ∧
        (e.run (ofStock (Stock.ofPairs pairs)) pool world).Alike
          (Rewritten tree workingDirectory root) (e.run source pool world) :=
  ⟨runs_mirror e pairs pool world, fun _ _ _ _ housed => housed.runs_rewrite e pairs pool world⟩

end

/-- One file of two is replaced, the other is in a directory of its own. -/
theorem sources_interchangeable_rehearsed :
    let house : List (String × FileTree) :=
      [("wings", .directory [("left", .file [1])]), ("stage.Play", .file [2])]
    let tree : FileTree := .directory [("house", .directory house)]
    let pairs : List (String × Bytes) := [("stage.Play", [2]), ("wings/left", [1])]
    let e := rehearsal "stage.Play" [⟨0, "first", .everything, .record⟩]
    Houses tree "/" "/house" pairs house ∧
      ∃ source, ofDirectory tree "/" "/house" = .ok source ∧
        let ran := e.run source () []
        ran.result = .ok { transformed := 1, unresolved := 1 } ∧
        ran.store.read "/" "/house/stage.Play" = .ok [102, 105, 114, 115, 116] ∧
        ran.store.read "/" "/house/wings/left" = .ok [1] := by
  intro house tree pairs e
  have named : ∀ name ∈ ["house", "wings", "left", "stage.Play"], FileTree.EntryName name := by
    intro name member
    constructor <;> revert name <;> decide
  have wings : (FileTree.directory [("left", .file [1])]).WellFormed :=
    .directory (by simp [named]) (by simp) (by simpa using .file [1])
  have houseLocated : tree.locate "/" "/house" = .ok ["house"] := FileTree.locate_house house
  have playLocated : tree.locate "/" "/house/stage.Play" = .ok ["house", "stage.Play"] := by
    rw [FileTree.locate, if_neg (by decide), if_neg (by decide), if_neg (by decide)]
    exact FileTree.resolve_down [] ["house", "stage.Play"] (by simp [named]) rfl _
  have leftLocated : tree.locate "/" "/house/wings/left" = .ok ["house", "wings", "left"] := by
    rw [FileTree.locate, if_neg (by decide), if_neg (by decide), if_neg (by decide)]
    exact FileTree.resolve_down [] ["house", "wings", "left"] (by simp [named]) rfl _
  have housed : Houses tree "/" "/house" pairs house := by
    constructor
    · rw [FileTree.stat, houseLocated]
      rfl
    · exact .directory (by simp [house, named]) (by simp [house])
        (by simpa [house] using ⟨wings, .file [2]⟩)
    · simp only [house, FileTree.files, FileTree.filesOf]
      decide
    · decide
    · intro p member content
      simp only [pairs, List.mem_cons, List.not_mem_nil, or_false] at member
      rcases member with rfl | rfl
      · exact ⟨_, FileTree.write_located playLocated rfl content⟩
      · exact ⟨_, FileTree.write_located leftLocated rfl content⟩
    · intro path inner proper there files
      obtain ⟨name, rest, rfl⟩ := List.exists_cons_of_ne_nil proper
      obtain ⟨child, here, below⟩ := Option.bind_eq_some_iff.mp there
      have among := FileTree.mem_of_child? here
      simp only [house, List.mem_cons, Prod.mk.injEq, List.not_mem_nil, or_false] at among
      rcases among with ⟨rfl, rfl⟩ | ⟨rfl, rfl⟩
      · cases rest with
        | nil =>
          obtain rfl := FileTree.directory.inj (Option.some.inj below)
          simp [FileTree.files, FileTree.filesOf] at files
        | cons next rest =>
          obtain ⟨child, here, below⟩ := Option.bind_eq_some_iff.mp below
          have among := FileTree.mem_of_child? here
          simp only [List.mem_singleton, Prod.mk.injEq] at among
          obtain ⟨rfl, rfl⟩ := among
          cases rest <;> cases below
      · cases rest <;> cases below
  obtain ⟨source, opened, alike⟩ :=
    (sources_interchangeable e pairs () []).2 tree "/" "/house" house housed
  have entries := alike.store.entries
  refine ⟨housed, source, opened, alike.result.symm.trans (by decide), ?_, ?_⟩
  · exact entries ⟨"stage.Play", [102, 105, 114, 115, 116], true⟩ (by decide)
  · exact entries ⟨"wings/left", [1], false⟩ (by decide)

end ClassForge.Source
