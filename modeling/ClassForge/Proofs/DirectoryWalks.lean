import ClassForge.Proofs.ByteOrder
import ClassForge.Proofs.EntryNames
import ClassForge.Proofs.InterchangeableSources

/-!
Walking a directory. The elements of a directory are the files that are reached through directories
only, each once, under the names on the way to it, and in the order of the bytes of that path. In
which order the system lists the entries of a directory makes no difference. An element that is
replaced has new bytes where it stands, and nothing else changes.
-/
namespace ClassForge

namespace FileTree

/-- A file below a directory, and the names on the way. Every node on the way is a directory. -/
inductive Reaches : FileTree → List String → Bytes → Prop where
  | file {entries : List (String × FileTree)} {name : String} {content : Bytes}
      (listed : (name, .file content) ∈ entries) : Reaches (.directory entries) [name] content
  | inner {entries : List (String × FileTree)} {name : String} {node : FileTree}
      {path : List String} {content : Bytes} (listed : (name, node) ∈ entries)
      (further : Reaches node path content) : Reaches (.directory entries) (name :: path) content

/-- The same tree, its directories listed in whatever order. -/
inductive Relisted : FileTree → FileTree → Prop where
  | file (content : Bytes) : Relisted (.file content) (.file content)
  | link (target : String) : Relisted (.link target) (.link target)
  | directory {entries entries' : List (String × FileTree)}
      (names : (entries.map (·.1)).Perm (entries'.map (·.1)))
      (nodes : ∀ e ∈ entries, ∀ e' ∈ entries', e.1 = e'.1 → Relisted e.2 e'.2) :
      Relisted (.directory entries) (.directory entries')

section
variable {t t' : FileTree} {path : List String} {content : Bytes}

theorem Reaches.some (reaches : Reaches t path content) : path ≠ [] := by
  cases reaches <;> simp

theorem Reaches.named (reaches : Reaches t path content) (wellFormed : t.WellFormed) :
    ∀ name ∈ path, EntryName name := by
  induction reaches with
  | file listed =>
    cases wellFormed with
    | directory named distinct inside => simpa using named _ listed
  | inner listed further ih =>
    cases wellFormed with
    | directory named distinct inside =>
      exact List.forall_mem_cons.mpr ⟨named _ listed, ih (inside _ listed)⟩

theorem mem_filesOf_file {entries : List (String × FileTree)} {name : String}
    (listed : (name, .file content) ∈ entries) : (name, content) ∈ filesOf entries := by
  induction entries with
  | nil => cases listed
  | cons e rest ih =>
    rw [filesOf.eq_def]
    rcases List.mem_cons.mp listed with here | later
    · subst here
      simp
    · exact List.mem_append_right _ (ih later)

theorem Reaches.listed (reaches : Reaches t path content) :
    ("/".intercalate path, content) ∈ t.files := by
  induction reaches with
  | file listed => simpa [files] using mem_filesOf_file listed
  | @inner entries name node path content listed further ih =>
    obtain ⟨next, rest, rfl⟩ := List.exists_cons_of_ne_nil further.some
    rw [String.intercalate_cons_cons, files]
    exact mem_filesOf_below listed ih

/-- What is listed is what is reached, under the path that is joined from the names on the way. -/
theorem mem_files_iff (wellFormed : t.WellFormed) {name : String} :
    (name, content) ∈ t.files ↔ ∃ path, Reaches t path content ∧ name = "/".intercalate path := by
  constructor
  · intro member
    induction wellFormed generalizing name content with
    | file content => simp [files] at member
    | link target => simp [files] at member
    | @directory entries named distinct inside ih =>
      obtain ⟨⟨first, node⟩, among, found⟩ := mem_filesOf member
      rcases found with ⟨isFile, called⟩ | ⟨rest, further, called⟩
      · simp only at isFile called
        exact ⟨[first], .file (isFile ▸ among), by simpa using called⟩
      · obtain ⟨path, reaches, joined⟩ := ih _ among further
        obtain ⟨next, more, rfl⟩ := List.exists_cons_of_ne_nil reaches.some
        refine ⟨first :: next :: more, .inner among reaches, ?_⟩
        rw [String.intercalate_cons_cons, ← joined]
        exact called
  · intro reached
    obtain ⟨path, reaches, joined⟩ := reached
    rw [joined]
    exact reaches.listed

end

theorem pathsOf_begin {e : String × FileTree} (undivided : '/' ∉ e.1.toList) {path : String}
    (member : path ∈ pathsOf e) : ∃ rest, components path = e.1 :: rest := by
  obtain ⟨name, node⟩ := e
  cases node with
  | file content =>
    rw [pathsOf, List.mem_singleton] at member
    rw [member]
    exact ⟨[], components_of_undivided undivided⟩
  | link target => simp [pathsOf] at member
  | directory entries =>
    obtain ⟨rest, -, joined⟩ := List.mem_map.mp member
    exact ⟨components rest, joined ▸ components_below undivided rest⟩

theorem paths_nodup {t : FileTree} (wellFormed : t.WellFormed) : (t.files.map (·.1)).Nodup := by
  induction wellFormed with
  | file content => simp [files]
  | link target => simp [files]
  | @directory entries named distinct inside ih =>
    rw [files, filesOf_paths, List.nodup_flatMap]
    constructor
    · intro e among
      obtain ⟨name, node⟩ := e
      cases node with
      | file content => simp [pathsOf]
      | link target => simp [pathsOf]
      | directory inner =>
        have below : ((filesOf inner).map (·.1)).Nodup := by simpa [files] using ih _ among
        apply below.map
        intro path path' same
        simpa using same
    · apply List.Pairwise.imp_of_mem _ (List.pairwise_map.mp distinct)
      intro e e' among among' different path member member'
      obtain ⟨rest, first⟩ := pathsOf_begin (named e among).undivided member
      obtain ⟨rest', first'⟩ := pathsOf_begin (named e' among').undivided member'
      rw [first] at first'
      exact different (List.cons.inj first').1

theorem counterpart {entries entries' : List (String × FileTree)}
    (names : (entries.map (·.1)).Perm (entries'.map (·.1))) {e : String × FileTree}
    (among : e ∈ entries) : ∃ e' ∈ entries', e'.1 = e.1 :=
  List.mem_map.mp (names.mem_iff.mp (List.mem_map_of_mem among))

section
variable {t t' : FileTree} (relisted : t.Relisted t')

theorem Relisted.refl (wellFormed : t.WellFormed) : t.Relisted t := by
  induction wellFormed with
  | file content => exact .file content
  | link target => exact .link target
  | @directory entries named distinct inside ih =>
    refine .directory (.refl _) fun e among e' among' same => ?_
    have found := child?_of_mem distinct among
    rw [same, child?_of_mem distinct among'] at found
    rw [Option.some.inj found]
    exact ih e among

include relisted

theorem Relisted.symm : t'.Relisted t := by
  induction relisted with
  | file content => exact .file content
  | link target => exact .link target
  | directory names nodes ih =>
    exact .directory names.symm fun e among e' among' same => ih e' among' e among same.symm

theorem Relisted.wellFormed (wellFormed : t.WellFormed) : t'.WellFormed := by
  induction relisted with
  | file content => exact .file content
  | link target => exact .link target
  | directory names nodes ih =>
    cases wellFormed with
    | directory named distinct inside =>
      constructor
      · intro e' among'
        obtain ⟨e, among, same⟩ := counterpart names.symm among'
        exact same ▸ named e among
      · exact names.nodup_iff.mp distinct
      · intro e' among'
        obtain ⟨e, among, same⟩ := counterpart names.symm among'
        exact ih e among e' among' same (inside e among)

theorem Relisted.reaches {path : List String} {content : Bytes} (reaches : Reaches t path content) :
    Reaches t' path content := by
  induction reaches generalizing t' with
  | file listed =>
    cases relisted with
    | directory names nodes =>
      obtain ⟨⟨name, node⟩, among, same⟩ := counterpart names listed
      have alike := nodes _ listed _ among same.symm
      simp only at same alike
      cases alike
      exact same ▸ .file among
  | inner listed further ih =>
    cases relisted with
    | directory names nodes =>
      obtain ⟨⟨name, node⟩, among, same⟩ := counterpart names listed
      have alike := nodes _ listed _ among same.symm
      simp only at same alike
      exact same ▸ .inner among (ih alike)

theorem Relisted.kind_eq : t'.kind = t.kind := by
  cases relisted <;> rfl

theorem Relisted.paths_perm (wellFormed : t.WellFormed) :
    (t'.files.map (·.1)).Perm (t.files.map (·.1)) := by
  have wellFormed' := relisted.wellFormed wellFormed
  rw [List.perm_ext_iff_of_nodup (paths_nodup wellFormed') (paths_nodup wellFormed)]
  intro name
  simp only [List.mem_map, Prod.exists, exists_and_right, exists_eq_right, mem_files_iff wellFormed,
    mem_files_iff wellFormed']
  constructor
  · intro ⟨content, path, reaches, joined⟩
    exact ⟨content, path, relisted.symm.reaches reaches, joined⟩
  · intro ⟨content, path, reaches, joined⟩
    exact ⟨content, path, relisted.reaches reaches, joined⟩

theorem Relisted.nodeAt? (wellFormed : t.WellFormed) {place : List String} {node : FileTree}
    (found : t.nodeAt? place = some node) :
    ∃ node', t'.nodeAt? place = some node' ∧ node.Relisted node' := by
  have wellFormed' := relisted.wellFormed wellFormed
  induction place generalizing t t' with
  | nil =>
    obtain rfl := Option.some.inj found
    exact ⟨t', rfl, relisted⟩
  | cons name rest ih =>
    obtain ⟨child, here, below⟩ := Option.bind_eq_some_iff.mp found
    cases relisted with
    | file content => cases here
    | link target => cases here
    | directory names nodes =>
      cases wellFormed with
      | directory named distinct inside =>
        cases wellFormed' with
        | directory named' distinct' inside' =>
          have among := mem_of_child? here
          obtain ⟨e', among', same⟩ := counterpart names among
          obtain ⟨node', found', alike⟩ := ih (nodes _ among e' among' same.symm) (inside _ among)
            below (inside' e' among')
          have same : e'.1 = name := same
          refine ⟨node', ?_, alike⟩
          rw [FileTree.nodeAt?, ← same, child?_of_mem distinct' among']
          exact found'

theorem Relisted.kindAt?_eq (wellFormed : t.WellFormed) (place : List String) :
    t'.kindAt? place = t.kindAt? place := by
  have wellFormed' := relisted.wellFormed wellFormed
  rw [kindAt?, kindAt?]
  cases found : t.nodeAt? place with
  | some node =>
    obtain ⟨node', found', alike⟩ := relisted.nodeAt? wellFormed found
    rw [found', Option.map_some, Option.map_some, alike.kind_eq]
  | none =>
    cases found' : t'.nodeAt? place with
    | none => rfl
    | some node' =>
      obtain ⟨node, there, -⟩ := relisted.symm.nodeAt? wellFormed' found'
      rw [found] at there
      cases there

theorem Relisted.stat (wellFormed : t.WellFormed) {workingDirectory path : String}
    {entries : List (String × FileTree)}
    (opened : t.stat workingDirectory path = .ok (.directory entries)) :
    ∃ entries', t'.stat workingDirectory path = .ok (.directory entries') ∧
      (FileTree.directory entries).Relisted (.directory entries') := by
  obtain ⟨place, located, found⟩ := located_of_stat opened
  obtain ⟨node', found', alike⟩ := relisted.nodeAt? wellFormed found
  have located' : t'.locate workingDirectory path = .ok place := by
    rw [locate_of_kinds (relisted.kindAt?_eq wellFormed), located]
  cases alike with
  | @directory _ entries' names nodes =>
    refine ⟨entries', ?_, .directory names nodes⟩
    rw [FileTree.stat, located']
    simp only [bind, Except.bind, found']

theorem Relisted.stat_error (wellFormed : t.WellFormed) {workingDirectory path : String}
    {fault : OsFault} (refused : t.stat workingDirectory path = .error fault) :
    t'.stat workingDirectory path = .error fault := by
  have same : t'.locate workingDirectory path = t.locate workingDirectory path :=
    locate_of_kinds (relisted.kindAt?_eq wellFormed) workingDirectory path
  rw [FileTree.stat] at refused ⊢
  rw [same]
  cases located : t.locate workingDirectory path with
  | error fault' =>
    rw [located] at refused
    exact refused
  | ok place =>
    rw [located] at refused
    cases found : t.nodeAt? place with
    | some node => simp [bind, Except.bind, found] at refused
    | none =>
      have nothing : t'.nodeAt? place = none := by
        have kinds := relisted.kindAt?_eq wellFormed place
        rw [kindAt?, kindAt?, found, Option.map_none] at kinds
        exact Option.map_eq_none_iff.mp kinds
      simpa [bind, Except.bind, found, nothing] using refused

theorem Relisted.refusal?_eq (wellFormed : t.WellFormed) (troubles : Troubles)
    (workingDirectory : String) (a : Access) :
    Source.refusal? troubles t' workingDirectory a =
      Source.refusal? troubles t workingDirectory a := by
  cases a with
  | opening directory =>
    cases here : t.stat workingDirectory directory with
    | error fault =>
      rw [Source.refusal?, Source.refusal?, here, relisted.stat_error wellFormed here]
    | ok node =>
      cases there : t'.stat workingDirectory directory with
      | error fault =>
        rw [relisted.symm.stat_error (relisted.wellFormed wellFormed) there] at here
        cases here
      | ok node' => rw [Source.refusal?, Source.refusal?, here, there]
  | listing directory index => rfl
  | inspecting path => rfl
  | emptying file => rfl

omit relisted in
theorem Relisted.searched (relisted : t.Relisted t') {path : String} {a : Access}
    (asked : a ∈ Source.search path t) : a ∈ Source.search path t' := by
  induction relisted generalizing path with
  | file content => exact asked
  | link target => exact asked
  | @directory entries entries' names nodes ih =>
    have lengths : entries.length = entries'.length := by simpa using names.length_eq
    rw [Source.search, List.mem_cons, Source.mem_accesses] at asked ⊢
    rw [← lengths]
    refine asked.imp_right fun later => later.imp_right ?_
    rintro ⟨e, among, inside⟩
    obtain ⟨e', among', same⟩ := counterpart names among
    refine ⟨e', among', ?_⟩
    rw [same]
    exact inside.imp_right fun below => ih e among e' among' same.symm below

end

theorem WellFormed.nodeAt? {t node : FileTree} (wellFormed : t.WellFormed) {place : List String}
    (found : t.nodeAt? place = some node) : node.WellFormed := by
  induction place generalizing t with
  | nil => exact Option.some.inj found ▸ wellFormed
  | cons name rest ih =>
    obtain ⟨child, here, below⟩ := Option.bind_eq_some_iff.mp found
    cases wellFormed with
    | file content => cases here
    | link target => cases here
    | directory named distinct inside => exact ih (inside _ (mem_of_child? here)) below

structure Overwritten (before after : FileTree) (place : List String) (content : Bytes) : Prop where
  there : after.contentAt? place = some content
  elsewhere : ∀ other, other ≠ place → after.contentAt? other = before.contentAt? other
  kinds : ∀ other, after.kindAt? other = before.kindAt? other

theorem overwritten_at {t : FileTree} {place : List String} {old : Bytes}
    (found : t.contentAt? place = some old) (content : Bytes) :
    Overwritten t (t.setAt place (.file content)) place content where
  there := by rw [contentAt?_overwritten found, if_pos rfl]
  elsewhere other different := by rw [contentAt?_overwritten found, if_neg different]
  kinds other := kindAt?_overwritten found content other

theorem contentAt?_of_kind {t : FileTree} {place : List String}
    (isFile : t.kindAt? place = some .file) : ∃ content, t.contentAt? place = some content := by
  obtain ⟨node, there, same⟩ := Option.map_eq_some_iff.mp isFile
  cases node with
  | file content => exact ⟨content, by rw [contentAt?, there]; rfl⟩
  | directory entries => cases same
  | link target => cases same

theorem nodeAt?_reached {entries : List (String × FileTree)} {path : List String} {content : Bytes}
    (wellFormed : (FileTree.directory entries).WellFormed)
    (reaches : Reaches (.directory entries) path content) :
    (FileTree.directory entries).nodeAt? path = some (.file content) := by
  have stands := standsIn_of_mem wellFormed _ reaches.listed
  have there := nodeAt?_of_contentAt? stands.there
  rwa [components_intercalate reaches.some (reaches.named wellFormed)] at there

end FileTree

namespace Source
open FileTree Text

theorem sortNames_ascend {names : List String} (distinct : names.Nodup) :
    (sortNames names).Pairwise (· < ·) := by
  have perm : (sortNames names).Perm names := List.mergeSort_perm _ _
  have ordered : (sortNames names).Pairwise fun a b => ¬b < a := mergeSort_ascends id names
  have different : (sortNames names).Pairwise (· ≠ ·) := perm.nodup_iff.mpr distinct
  refine (ordered.and different).imp fun {a b} (h : ¬b < a ∧ a ≠ b) => ?_
  exact Std.lt_of_le_of_ne (Std.not_lt.mp h.1) h.2

/-- The files below a directory, each once, by the order of the bytes of their paths. -/
structure Walk (entries : List (String × FileTree)) (paths : List (List String)) : Prop where
  reached : ∀ path, path ∈ paths ↔ ∃ content, Reaches (.directory entries) path content
  once : paths.Nodup
  ordered : paths.Pairwise fun path path' =>
    Utf8.Before (Utf8.encode ("/".intercalate path)) (Utf8.encode ("/".intercalate path'))

section
variable {entries : List (String × FileTree)}
  (wellFormed : (FileTree.directory entries).WellFormed)
include wellFormed

theorem components_reached {path : List String} {content : Bytes}
    (reaches : Reaches (.directory entries) path content) :
    components ("/".intercalate path) = path :=
  components_intercalate reaches.some (reaches.named wellFormed)

theorem mem_sorted_paths {name : String} :
    name ∈ sortNames ((FileTree.directory entries).files.map (·.1)) ↔
      ∃ path content, Reaches (.directory entries) path content ∧ name = "/".intercalate path := by
  rw [sortNames, List.mem_mergeSort, List.mem_map]
  constructor
  · intro ⟨⟨listed, content⟩, member, same⟩
    obtain ⟨path, reaches, joined⟩ := (mem_files_iff wellFormed).mp member
    exact ⟨path, content, reaches, same.symm.trans joined⟩
  · intro ⟨path, content, reaches, joined⟩
    exact ⟨_, reaches.listed, joined.symm⟩

theorem exists_walk : ∃ paths, Walk entries paths ∧
    sortNames ((FileTree.directory entries).files.map (·.1)) = paths.map ("/".intercalate ·) := by
  have ascending := sortNames_ascend (paths_nodup wellFormed)
  have listed := fun name => @mem_sorted_paths entries wellFormed name
  generalize sortNames ((FileTree.directory entries).files.map (·.1)) = names at listed ascending
  have restored : ∀ name ∈ names, "/".intercalate (components name) = name := by
    intro name member
    obtain ⟨path, content, reaches, joined⟩ := (listed name).mp member
    rw [joined, components_reached wellFormed reaches]
  refine ⟨names.map components, ⟨?_, ?_, ?_⟩, ?_⟩
  · intro path
    rw [List.mem_map]
    constructor
    · intro ⟨name, member, cut⟩
      obtain ⟨path', content, reaches, joined⟩ := (listed name).mp member
      rw [joined, components_reached wellFormed reaches] at cut
      exact ⟨content, cut ▸ reaches⟩
    · intro ⟨content, reaches⟩
      exact ⟨_, (listed _).mpr ⟨path, content, reaches, rfl⟩, components_reached wellFormed reaches⟩
  · have distinct : names.Nodup := ascending.imp Std.ne_of_lt
    exact distinct.map fun _ _ => components_injective
  · rw [List.pairwise_map]
    apply ascending.imp_of_mem
    intro name name' member member' less
    rw [restored name member, restored name' member']
    exact Utf8.before_encode less
  · rw [List.map_map]
    exact ((List.map_congr_left restored).trans names.map_id).symm

end

/-- What comes of overwriting a file: it is refused, or the file takes the bytes, or but a part of
them. Nothing else changes. -/
inductive Replaced (troubles : Troubles) (file : String) (path place : List String) (a : Artifact)
    (now : FileTree) : Except RunError Unit → FileTree → Prop where
  | refused {fault : OsFault}
      (refused : (pathFault? file path).or (troubles.refused (.emptying file)) = some fault) :
      Replaced troubles file path place a now
        (.error (Access.failure (.emptying file) fault)) now
  | brokenOff {fault : OsFault} {after : FileTree}
      (granted : (pathFault? file path).or (troubles.refused (.emptying file)) = none)
      (stopped : (troubles.portion file a.bytes).2 = some fault)
      (overwritten : Overwritten now after place (troubles.portion file a.bytes).1) :
      Replaced troubles file path place a now
        (.error (Access.failure (.emptying file) fault)) after
  | written {after : FileTree}
      (granted : (pathFault? file path).or (troubles.refused (.emptying file)) = none)
      (unstopped : (troubles.portion file a.bytes).2 = none)
      (overwritten : Overwritten now after place a.bytes) :
      Replaced troubles file path place a now (.ok ()) after

theorem portion_whole {troubles : Troubles} {file : String} {bytes : Bytes}
    (unstopped : (troubles.portion file bytes).2 = none) :
    (troubles.portion file bytes).1 = bytes := by
  unfold Troubles.portion at unstopped ⊢
  cases bytes with
  | nil => rfl
  | cons b bytes => cases refused : troubles.writing file <;> simp_all

/-- A file of the directory is overwritten as long as nothing in the tree has become something else,
whatever else was overwritten before. -/
theorem replace_reached {tree now : FileTree} {workingDirectory root : String}
    {base path : List String} {entries : List (String × FileTree)} {content : Bytes}
    (troubles : Troubles) (located : tree.locate workingDirectory root = .ok base)
    (found : tree.nodeAt? base = some (.directory entries))
    (wellFormed : (FileTree.directory entries).WellFormed)
    (reaches : Reaches (.directory entries) path content)
    (kinds : ∀ place, now.kindAt? place = tree.kindAt? place) (a : Artifact) :
    let name := "/".intercalate path
    let replaced := (inDirectory workingDirectory root troubles).replace name a now
    Replaced troubles (fileBelow root name) path (base ++ path) a now replaced.1 replaced.2 := by
  intro name replaced
  let file := fileBelow root name
  have there := nodeAt?_reached wellFormed reaches
  have arrives := locate_below located found wellFormed reaches.some there (by simp)
  rw [← locate_of_kinds kinds] at arrives
  have done : replaced = overwrite troubles workingDirectory root name a now := rfl
  cases taken : pathFault? file path with
  | some fault =>
    rw [taken] at arrives
    rw [done, overwrite_refused troubles a arrives]
    exact .refused (by rw [taken]; rfl)
  | none =>
    rw [taken] at arrives
    have isFile : now.kindAt? (base ++ path) = some .file := by
      rw [kinds, kindAt?, nodeAt?_append, found]
      exact congrArg (Option.map kind) there
    obtain ⟨old, stands⟩ := contentAt?_of_kind isFile
    have overwritten := overwritten_at stands (troubles.portion file a.bytes).1
    rw [done, overwrite_located troubles a arrives stands]
    cases shut : troubles.refused (.emptying file) with
    | some fault => exact .refused (by rw [taken]; exact shut)
    | none =>
      have granted : (pathFault? file path).or (troubles.refused (.emptying file)) = none := by
        rw [taken]
        exact shut
      cases stopped : (troubles.portion file a.bytes).2 with
      | some fault => exact .brokenOff granted stopped overwritten
      | none =>
        have whole := overwritten.there.trans (congrArg some (portion_whole stopped))
        exact .written granted stopped ⟨whole, overwritten.elsewhere, overwritten.kinds⟩

section
variable {troubles : Troubles} {tree : FileTree} {workingDirectory : String} {asked : List Access}

theorem unrefused_iff : firstRefusal? troubles tree workingDirectory asked = none ↔
    ∀ a ∈ asked, refusal? troubles tree workingDirectory a = none := by
  simp [firstRefusal?]

theorem firstRefusal?_at {before after : List Access} {a : Access} {fault : OsFault}
    (granted : ∀ b ∈ before, refusal? troubles tree workingDirectory b = none)
    (refused : refusal? troubles tree workingDirectory a = some fault) :
    firstRefusal? troubles tree workingDirectory (before ++ a :: after) =
      some (a.failure fault) := by
  have none := unrefused_iff.mpr granted
  rw [firstRefusal?] at none ⊢
  simp [List.findSome?_append, none, refused]

end

structure Walked (troubles : Troubles) (tree : FileTree) (workingDirectory root : String)
    (entries : List (String × FileTree)) (base : List String) (paths : List (List String)) :
    Prop where
  walk : Walk entries paths
  /-- Without a refusal the elements are the files of the walk, however directories are listed. -/
  opens : (∀ a ∈ search root (.directory entries),
      refusal? troubles tree workingDirectory a = none) →
    ∀ tree', tree.Relisted tree' → ofDirectory tree' workingDirectory root troubles =
      .ok (overDirectory tree' workingDirectory root (paths.map ("/".intercalate ·)) troubles)
  /-- The first refusal is the failure. -/
  fails : ∀ before a after fault, search root (.directory entries) = before ++ a :: after →
    (∀ b ∈ before, refusal? troubles tree workingDirectory b = none) →
    refusal? troubles tree workingDirectory a = some fault →
      ofDirectory tree workingDirectory root troubles = .error (a.failure fault)
  /-- In another order of the listings, another refusal may be the first. -/
  failsAnyhow : ∀ a ∈ search root (.directory entries),
    refusal? troubles tree workingDirectory a ≠ none → ∀ tree', tree.Relisted tree' →
      ∃ failure, ofDirectory tree' workingDirectory root troubles = .error failure
  /-- Of themselves, only directories with too long a path are refused. -/
  below : ∀ path inner, path ≠ [] →
    (FileTree.directory entries).nodeAt? path = some (.directory inner) →
      let directory := fileBelow root ("/".intercalate path)
      refusal? troubles tree workingDirectory (.opening directory) =
        (pathFault? directory path).or (troubles.refused (.opening directory))
  replaces : ∀ now, (∀ place, now.kindAt? place = tree.kindAt? place) → ∀ path ∈ paths, ∀ a,
    let name := "/".intercalate path
    let replaced := (inDirectory workingDirectory root troubles).replace name a now
    Replaced troubles (fileBelow root name) path (base ++ path) a now replaced.1 replaced.2

/-- The elements of a directory are the files that are reached in it, each once, by the order of the
bytes of their paths, in whatever order directories are listed, unless the system refuses an access
on the way. Replacing one, at any time, changes its file at most. -/
theorem directory_walked {tree : FileTree} {workingDirectory root : String}
    {entries : List (String × FileTree)} (troubles : Troubles) (wellFormed : tree.WellFormed)
    (opened : tree.stat workingDirectory root = .ok (.directory entries)) :
    ∃ base paths, tree.locate workingDirectory root = .ok base ∧
      Walked troubles tree workingDirectory root entries base paths := by
  obtain ⟨base, located, found⟩ := located_of_stat opened
  have inner : (FileTree.directory entries).WellFormed := wellFormed.nodeAt? found
  obtain ⟨paths, walk, sorted⟩ := exists_walk inner
  refine ⟨base, paths, located, ?_⟩
  constructor
  case walk => exact walk
  case opens =>
    intro granted tree' relisted
    obtain ⟨entries', opened', alike⟩ := relisted.stat wellFormed opened
    have same : sortNames ((FileTree.directory entries').files.map (·.1)) =
        paths.map ("/".intercalate ·) := by
      rw [← sorted]
      exact sortNames_eq ((alike.paths_perm inner).trans (List.mergeSort_perm _ _).symm)
        (sortNames_ascend (paths_nodup inner))
    have unrefused : firstRefusal? troubles tree' workingDirectory
        (search root (.directory entries')) = none := by
      rw [unrefused_iff]
      intro a asked
      rw [relisted.refusal?_eq wellFormed]
      exact granted a (alike.symm.searched asked)
    rw [ofDirectory_eq troubles opened', unrefused, same]
  case fails =>
    intro before a after fault split granted refused
    rw [ofDirectory_eq troubles opened, split, firstRefusal?_at granted refused]
  case failsAnyhow =>
    intro a asked refused tree' relisted
    obtain ⟨entries', opened', alike⟩ := relisted.stat wellFormed opened
    rw [ofDirectory_eq troubles opened']
    cases first : firstRefusal? troubles tree' workingDirectory
        (search root (.directory entries')) with
    | some failure => exact ⟨failure, rfl⟩
    | none =>
      have granted := unrefused_iff.mp first a (alike.searched asked)
      rw [relisted.refusal?_eq wellFormed] at granted
      exact absurd granted refused
  case below => exact fun path inside => refusal_below troubles located found inner
  case replaces =>
    intro now kinds path member a
    obtain ⟨content, reaches⟩ := (walk.reached path).mp member
    exact replace_reached troubles located found inner reaches kinds a

/-- `a-b/x` comes before `a/x` though `a` comes before `a-b`. A link to a directory is passed
over. The disk is full when the second file is written. -/
theorem directory_walked_past_link :
    let house : List (String × FileTree) := [("a", .directory [("x", .file [1])]),
      ("a-b", .directory [("x", .file [2])]), ("door", .link "a")]
    let tree : FileTree := .directory [("house", .directory house)]
    let full : OsFault := .other "No space left on device"
    let troubles : Troubles :=
      { writing := fun file => if file = "/house/a/x" then some ⟨1, full⟩ else none }
    tree.WellFormed ∧ tree.stat "/" "/house" = .ok (.directory house) ∧
      ofDirectory tree "/" "/house" troubles =
        .ok (overDirectory tree "/" "/house" ["a-b/x", "a/x"] troubles) ∧
      ∃ after,
        (inDirectory "/" "/house" troubles).replace "a/x" (.ofBytes ⟨"A"⟩ [3, 4]) tree =
          (.error (.io "writing /house/a/x" full.detail), after) ∧
        after.contentAt? ["house", "a", "x"] = some [3] ∧
        after.contentAt? ["house", "a-b", "x"] = some [2] := by
  intro house tree full troubles
  have named : ∀ name ∈ ["house", "a", "a-b", "door", "x"], EntryName name := by
    intro name member
    constructor <;> revert name <;> decide
  have room : ∀ content, (FileTree.directory [("x", .file content)]).WellFormed := fun content =>
    .directory (by simp [named]) (by simp) (by simpa using .file content)
  have housed : (FileTree.directory house).WellFormed :=
    .directory (by simp [house, named]) (by simp [house])
      (by simpa [house] using ⟨room [1], room [2], .link "a"⟩)
  have wellFormed : tree.WellFormed :=
    .directory (by simp [named]) (by simp) (by simpa using housed)
  have located : tree.locate "/" "/house" = .ok ["house"] := locate_house house
  have opened : tree.stat "/" "/house" = .ok (.directory house) := by
    rw [FileTree.stat, located]
    rfl
  have sorted : sortNames ((FileTree.directory house).files.map (·.1)) = ["a-b/x", "a/x"] := by
    refine sortNames_eq ?_ (by decide)
    simp only [house, files, filesOf]
    decide
  obtain ⟨base, paths, located', walked⟩ := directory_walked troubles wellFormed opened
  obtain rfl : ["house"] = base := Except.ok.inj (located.symm.trans located')
  have member : ["a", "x"] ∈ paths :=
    (walked.walk.reached _).mpr ⟨[1], .inner (List.mem_cons_self) (.file (by simp))⟩
  have granted : ∀ a ∈ search "/house" (.directory house), refusal? troubles tree "/" a = none := by
    have here : refusal? troubles tree "/" (.opening "/house") = none := by
      simp only [refusal?, opened]
      rfl
    have first : refusal? troubles tree "/" (.opening (fileBelow "/house" "a")) = none :=
      (walked.below ["a"] _ (by simp) rfl).trans (by decide)
    have second : refusal? troubles tree "/" (.opening (fileBelow "/house" "a-b")) = none :=
      (walked.below ["a-b"] _ (by simp) rfl).trans (by decide)
    intro a asked
    cases a with
    | opening directory =>
      simp only [search, accesses, house, List.cons_append, List.nil_append, List.mem_cons,
        Access.opening.injEq, reduceCtorEq, List.not_mem_nil, false_or, or_false] at asked
      rcases asked with rfl | rfl | rfl
      · exact here
      · exact first
      · exact second
    | listing directory index => rfl
    | inspecting path => rfl
    | emptying file => rfl
  refine ⟨wellFormed, opened, ?_, ?_⟩
  · rw [ofDirectory_eq troubles opened, unrefused_iff.mpr granted, sorted]
  · let artifact := Artifact.ofBytes ⟨"A"⟩ [3, 4]
    rcases replacing : (inDirectory "/" "/house" troubles).replace "a/x" artifact tree with
      ⟨result, after⟩
    have done : Replaced troubles "/house/a/x" ["a", "x"] ["house", "a", "x"] artifact tree
        result after := by
      have replaced := walked.replaces tree (fun _ => rfl) ["a", "x"] member artifact
      simp only [show "/".intercalate ["a", "x"] = "a/x" by decide, replacing] at replaced
      exact replaced
    have granted : (pathFault? "/house/a/x" ["a", "x"]).or
      (troubles.refused (.emptying "/house/a/x")) = none := by decide
    have stopped : troubles.portion "/house/a/x" artifact.bytes = ([3], some full) := by decide
    cases done with
    | refused refused => simp [granted] at refused
    | written _ unstopped _ => simp [stopped] at unstopped
    | brokenOff _ why overwritten =>
      rw [stopped] at why overwritten
      obtain rfl := Option.some.inj why
      exact ⟨after, rfl, overwritten.there, overwritten.elsewhere ["house", "a-b", "x"] (by decide)⟩

def dotted (root : String) : Nat → String
  | 0 => root
  | n + 1 => fileBelow (dotted root n) "."

theorem fileBelow_size {root name : String} (unended : root.toList.getLast? ≠ some '/') :
    (fileBelow root name).utf8ByteSize = root.utf8ByteSize + 1 + name.utf8ByteSize := by
  rw [fileBelow, if_neg (by simpa using unended), String.utf8ByteSize_append,
    String.utf8ByteSize_append]
  rfl

theorem dotted_size {root : String} (unended : root.toList.getLast? ≠ some '/') (n : Nat) :
    (dotted root n).toList.getLast? ≠ some '/' ∧
      (dotted root n).utf8ByteSize = root.utf8ByteSize + 2 * n := by
  induction n with
  | zero => exact ⟨unended, rfl⟩
  | succ n ih =>
    obtain ⟨before, cut, -⟩ := fileBelow_toList (dotted root n) "."
    constructor
    · rw [dotted, cut]
      simp
    · rw [dotted, fileBelow_size ih.1, ih.2]
      have one : ".".utf8ByteSize = 1 := by decide
      omega

theorem locate_dotted {tree : FileTree} {workingDirectory root : String} {base : List String}
    {entries : List (String × FileTree)} (unended : root.toList.getLast? ≠ some '/')
    (located : tree.locate workingDirectory root = .ok base)
    (found : tree.nodeAt? base = some (.directory entries)) {n : Nat}
    (short : root.utf8ByteSize + 2 * n < pathLimit) :
    tree.locate workingDirectory (dotted root n) = .ok base := by
  induction n with
  | zero => exact located
  | succ n ih =>
    have earlier := ih (by omega)
    have unslashed := dotted_size unended n
    have size := (dotted_size unended (n + 1)).2
    rw [dotted] at size ⊢
    obtain ⟨given, opened⟩ := resolve_of_located earlier
    obtain ⟨ending, ends, ended⟩ := names_eq_parts (dotted root n)
    rw [ended] at opened
    obtain ⟨fewer, through⟩ := resolve_through found ends _ _ _ opened
    have current : parts "." = ["."] := by decide
    have clean := clean_of_located earlier
    obtain ⟨before, cut, plain | slashed⟩ := fileBelow_toList (dotted root n) "."
    case inr => exact absurd (by simp [slashed]) unslashed.1
    have nul : ¬(fileBelow (dotted root n) ".").toList.contains (Char.ofNat 0) = true := by
      rw [plain] at clean
      simpa [cut] using clean
    have some : ¬(fileBelow (dotted root n) ".").isEmpty = true := by
      rw [String.isEmpty_iff]
      intro empty
      simp [empty] at cut
    rw [locate, if_neg nul, if_neg some, if_neg (by omega), isAbsolute_below given,
      names_of_below (c := '.') (by decide) (by decide), through, current, resolve, resolve]

theorem unopened_of_deep {tree : FileTree} {workingDirectory root room : String}
    {base : List String} {rest inner : List (String × FileTree)}
    (located : tree.locate workingDirectory root = .ok base)
    (found : tree.nodeAt? base = some (.directory ((room, .directory inner) :: rest)))
    (wellFormed : (FileTree.directory ((room, .directory inner) :: rest)).WellFormed)
    (unended : root.toList.getLast? ≠ some '/') (clean : Char.ofNat 0 ∉ room.toList)
    (deep : pathLimit ≤ root.utf8ByteSize + 1 + room.utf8ByteSize) :
    ofDirectory tree workingDirectory root = .error
      (.io ("reading directory " ++ fileBelow root room) OsFault.nameTooLong.detail) := by
  let house := (room, FileTree.directory inner) :: rest
  have opened : tree.stat workingDirectory root = .ok (.directory house) := by
    rw [stat, located]
    simp only [bind, Except.bind, found, house]
  have there : (FileTree.directory house).nodeAt? [room] = some (.directory inner) := by
    simp [house, FileTree.nodeAt?, child?]
  have tooLong : pathFault? (fileBelow root room) [room] = some .nameTooLong := by
    have nul : ¬(fileBelow root room).toList.contains (Char.ofNat 0) = true := by
      obtain ⟨before, cut, whole | slashed⟩ := fileBelow_toList root room
      case inr => exact absurd (by simp [slashed]) unended
      have cleanRoot := clean_of_located located
      rw [whole] at cleanRoot
      simpa [cut, clean] using cleanRoot
    have exceeds : pathLimit ≤ (fileBelow root room).utf8ByteSize := by
      rw [fileBelow_size unended]
      exact deep
    rw [pathFault?, if_neg nul, if_pos (.inl exceeds)]
  have refused : refusal? {} tree workingDirectory (.opening (fileBelow root room)) =
      some .nameTooLong := by
    have below := refusal_below {} located found wellFormed (by simp) there
    simp only [String.intercalate_singleton, tooLong] at below
    exact below
  have asked : search root (.directory house) =
      [.opening root, .listing root 0, .inspecting (fileBelow root room)] ++
        .opening (fileBelow root room) ::
          (accesses (fileBelow root room) 0 inner ++ accesses root 1 rest) := by
    simp [search, accesses, house]
  have granted : ∀ a ∈ [Access.opening root, .listing root 0, .inspecting (fileBelow root room)],
      refusal? {} tree workingDirectory a = none := by
    intro a member
    simp only [List.mem_cons, List.not_mem_nil, or_false] at member
    rcases member with rfl | rfl | rfl
    · simp only [refusal?, opened]
    · rfl
    · rfl
  rw [ofDirectory_eq {} opened, asked, firstRefusal?_at granted refused]
  rfl

/-- There is one file, and the path to the directory that it is in has 4162 bytes. -/
theorem directory_unopened_too_deep :
    let room := String.ofList (List.replicate 255 'r')
    let house : List (String × FileTree) := [(room, .directory [("x", .file [1])])]
    let tree : FileTree := .directory [("house", .directory house)]
    let root := dotted "/house" 1950
    tree.WellFormed ∧ tree.stat "/" root = .ok (.directory house) ∧
      Reaches (.directory house) [room, "x"] [1] ∧
      ofDirectory tree "/" root = .error
        (.io ("reading directory " ++ fileBelow root room) OsFault.nameTooLong.detail) := by
  intro room house tree root
  have letters : room.toList = List.replicate 255 'r' := String.toList_ofList
  have long : room.utf8ByteSize = 255 := by decide +kernel
  have lettered : ∀ c ∈ room.toList, c = 'r' := by
    rw [letters]
    exact fun c => List.eq_of_mem_replicate
  have proper : EntryName room := by
    have length : room.toList.length = 255 := by rw [letters, List.length_replicate]
    have different : ∀ name : String, name.toList.length ≠ 255 → room ≠ name :=
      fun name short same => short (same ▸ length)
    constructor
    · exact different "" (by decide)
    · exact different "." (by decide)
    · exact different ".." (by decide)
    · exact fun slash => absurd (lettered _ slash) (by decide)
  have others : ∀ name ∈ ["house", "x"], EntryName name := by
    intro name member
    constructor <;> revert name <;> decide
  have filled : (FileTree.directory [("x", .file [1])]).WellFormed :=
    .directory (by simp [others]) (by simp) (by simpa using .file [1])
  have inside : (FileTree.directory house).WellFormed :=
    .directory (by simp [house, proper]) (by simp [house]) (by simpa [house] using filled)
  have plain : "/house".toList.getLast? ≠ some '/' := by decide
  have bytes : "/house".utf8ByteSize = 6 := by decide
  obtain ⟨unended, size⟩ := dotted_size plain 1950
  have located : tree.locate "/" root = .ok ["house"] :=
    locate_dotted plain (locate_house house) rfl (by rw [bytes]; decide)
  refine ⟨.directory (by simp [others]) (by simp) (by simpa using inside), ?_,
    .inner List.mem_cons_self (.file (by simp)), ?_⟩
  · rw [stat, located]
    rfl
  · refine unopened_of_deep located rfl inside unended ?_ ?_
    · exact fun nul => absurd (lettered _ nul) (by decide)
    · rw [size, bytes, long]
      decide

end Source
end ClassForge
