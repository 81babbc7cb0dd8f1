import ClassForge.Proofs.EntryNames

/-!
What is asked of the system on the way through a directory. A walk asks for one access after the
other, and ends with the first that is refused; otherwise it has come upon every file that is listed
below the directory. A directory on the way is refused by its path only where that is too long.
-/
namespace ClassForge

namespace FileTree

theorem mem_of_child? {entries : List (String × FileTree)} {name : String} {node : FileTree}
    (found : (directory entries).child? name = some node) : (name, node) ∈ entries := by
  obtain ⟨e, listed, same⟩ := Option.map_eq_some_iff.mp found
  have called : e.1 = name := by simpa using List.find?_some listed
  rw [← called, ← same]
  exact List.mem_of_find?_eq_some listed

theorem components_intercalate {path : List String} (some : path ≠ [])
    (named : ∀ name ∈ path, EntryName name) : components ("/".intercalate path) = path := by
  induction path with
  | nil => exact absurd rfl some
  | cons name rest ih =>
    obtain ⟨first, later⟩ := List.forall_mem_cons.mp named
    cases rest with
    | nil => simpa using components_of_undivided first.undivided
    | cons next rest =>
      rw [String.intercalate_cons_cons, components_below first.undivided, ih (by simp) later]

theorem components_append {path : List String} (named : ∀ name ∈ path, EntryName name)
    (proper : path ≠ []) (file : String) :
    components ("/".intercalate path ++ "/" ++ file) = path ++ components file := by
  induction path with
  | nil => exact absurd rfl proper
  | cons name rest ih =>
    obtain ⟨first, later⟩ := List.forall_mem_cons.mp named
    cases rest with
    | nil => simpa using components_below first.undivided file
    | cons next rest =>
      have onward := ih later (by simp)
      rw [String.intercalate_cons_cons, List.cons_append, ← onward,
        ← components_below first.undivided]
      simp [String.append_assoc]

theorem intercalate_components {path : String} (named : ∀ name ∈ components path, EntryName name) :
    "/".intercalate (components path) = path := by
  apply components_injective
  exact components_intercalate (by simp [components, Text.pieces_ne_nil]) named

section
variable {t node : FileTree} {path : List String}

theorem named_of_nodeAt? (wellFormed : t.WellFormed) (there : t.nodeAt? path = some node) :
    ∀ name ∈ path, EntryName name := by
  induction path generalizing t with
  | nil => simp
  | cons name rest ih =>
    obtain ⟨child, here, below⟩ := Option.bind_eq_some_iff.mp there
    cases wellFormed with
    | file content => cases here
    | link target => cases here
    | directory named distinct inside =>
      have listed := mem_of_child? here
      exact List.forall_mem_cons.mpr ⟨named _ listed, ih (inside _ listed) below⟩

theorem locate_below {workingDirectory root : String} {base : List String}
    {entries : List (String × FileTree)}
    (located : t.locate workingDirectory root = .ok base)
    (found : t.nodeAt? base = some (.directory entries))
    (wellFormed : (FileTree.directory entries).WellFormed) (proper : path ≠ [])
    (there : (FileTree.directory entries).nodeAt? path = some node)
    (unlinked : ∀ target, node ≠ .link target) :
    t.locate workingDirectory (Source.fileBelow root ("/".intercalate path)) =
      match pathFault? (Source.fileBelow root ("/".intercalate path)) path with
      | some fault => .error fault
      | none => .ok (base ++ path) := by
  have named := named_of_nodeAt? wellFormed there
  have pieces := components_intercalate proper named
  have filled : ∀ c ∈ components ("/".intercalate path), c ≠ "" := by
    rw [pieces]
    exact fun c member => (named c member).some
  have stands : t.nodeAt? (base ++ path) = some node := by
    rw [nodeAt?_append, found]
    exact there
  obtain ⟨given, opened⟩ := resolve_of_located located
  obtain ⟨ending, ends, ended⟩ := names_eq_parts root
  rw [ended] at opened
  obtain ⟨fewer, through⟩ := resolve_through found ends _ _ _ opened
  apply locate_of_resolved
  · obtain ⟨before, cut, -⟩ := fileBelow_toList root ("/".intercalate path)
    rw [String.isEmpty_iff]
    intro empty
    simp [empty] at cut
  · rw [isAbsolute_below given, names_below filled, through, pieces]
    exact resolve_down_to base path named stands unlinked fewer

theorem stat_below {workingDirectory root : String} {base : List String}
    {entries : List (String × FileTree)}
    (located : t.locate workingDirectory root = .ok base)
    (found : t.nodeAt? base = some (.directory entries))
    (wellFormed : (FileTree.directory entries).WellFormed) (proper : path ≠ [])
    (there : (FileTree.directory entries).nodeAt? path = some node)
    (unlinked : ∀ target, node ≠ .link target) :
    t.stat workingDirectory (Source.fileBelow root ("/".intercalate path)) =
      match pathFault? (Source.fileBelow root ("/".intercalate path)) path with
      | some fault => .error fault
      | none => .ok node := by
  have stands : t.nodeAt? (base ++ path) = some node := by
    rw [nodeAt?_append, found]
    exact there
  rw [stat, locate_below located found wellFormed proper there unlinked]
  cases pathFault? (Source.fileBelow root ("/".intercalate path)) path with
  | some fault => rfl
  | none => simp [bind, Except.bind, stands]

end

theorem clean_of_located {workingDirectory path : String} {place : List String} {t : FileTree}
    (located : t.locate workingDirectory path = .ok place) :
    ¬path.toList.contains (Char.ofNat 0) = true := by
  intro inside
  rw [locate, if_pos inside] at located
  cases located

theorem locate_house (inner : List (String × FileTree)) :
    (directory [("house", .directory inner)]).locate "/" "/house" = .ok ["house"] := by
  have names : FileTree.names "/house" = ["house"] := by decide
  rw [locate, if_neg (by decide), if_neg (by decide), if_neg (by decide), names,
    resolve_proper _ (by decide) (by decide)]
  simp only [resolve]
  rfl

/-- The paths that an entry adds to those of its directory. -/
def pathsOf : String × FileTree → List String
  | (name, .file _) => [name]
  | (name, .directory entries) => ((filesOf entries).map (·.1)).map (name ++ "/" ++ ·)
  | (_, .link _) => []

theorem filesOf_paths (entries : List (String × FileTree)) :
    (filesOf entries).map (·.1) = entries.flatMap pathsOf := by
  induction entries with
  | nil => simp [filesOf]
  | cons e rest ih =>
    obtain ⟨name, node⟩ := e
    rw [filesOf.eq_def, List.flatMap_cons]
    cases node <;> simp [pathsOf, ih]

theorem mem_filesOf_below {entries : List (String × FileTree)} {name path : String}
    {node : FileTree} {content : Bytes} (listed : (name, node) ∈ entries)
    (inside : (path, content) ∈ node.files) :
    (name ++ "/" ++ path, content) ∈ filesOf entries := by
  induction entries with
  | nil => cases listed
  | cons e rest ih =>
    rw [filesOf.eq_def]
    rcases List.mem_cons.mp listed with here | later
    · subst here
      apply List.mem_append_left
      cases node with
      | file content => simp [files] at inside
      | link target => simp [files] at inside
      | directory entries => exact List.mem_map.mpr ⟨_, inside, rfl⟩
    · exact List.mem_append_right _ (ih later)

theorem intercalate_append {path more : List String} (proper : path ≠ []) (longer : more ≠ []) :
    "/".intercalate (path ++ more) = "/".intercalate path ++ "/" ++ "/".intercalate more := by
  induction path with
  | nil => exact absurd rfl proper
  | cons name rest ih =>
    cases rest with
    | nil =>
      obtain ⟨next, others, rfl⟩ := List.exists_cons_of_ne_nil longer
      simp [String.intercalate_cons_cons]
    | cons next rest =>
      have onward := ih (by simp)
      simp only [List.cons_append, String.intercalate_cons_cons] at onward ⊢
      rw [onward]
      simp [String.append_assoc]

theorem mem_files_below {t node : FileTree} {path : List String} {name : String} {content : Bytes}
    (proper : path ≠ []) (there : t.nodeAt? path = some node)
    (inside : (name, content) ∈ node.files) :
    ("/".intercalate path ++ "/" ++ name, content) ∈ t.files := by
  induction path generalizing t with
  | nil => exact absurd rfl proper
  | cons first rest ih =>
    obtain ⟨child, here, below⟩ := Option.bind_eq_some_iff.mp there
    cases t with
    | file content => cases here
    | link target => cases here
    | directory entries =>
      have listed := mem_of_child? here
      cases rest with
      | nil =>
        obtain rfl := Option.some.inj below
        simpa [files] using mem_filesOf_below listed inside
      | cons next rest =>
        rw [String.intercalate_cons_cons, String.append_assoc, String.append_assoc, files]
        simpa [String.append_assoc] using mem_filesOf_below listed (ih (by simp) below)

theorem pathFault?_eq_none_iff {path : String} {names : List String} :
    pathFault? path names = none ↔ Char.ofNat 0 ∉ path.toList ∧ path.utf8ByteSize < pathLimit ∧
      ∀ name ∈ names, name.utf8ByteSize ≤ nameLimit := by
  have narrow : (¬∃ name ∈ names, nameLimit < name.utf8ByteSize) ↔
      ∀ name ∈ names, name.utf8ByteSize ≤ nameLimit := by simp
  rw [pathFault?, ← narrow, ← Nat.not_le]
  by_cases nul : Char.ofNat 0 ∈ path.toList
  · simp [nul]
  · simp [nul, not_or]

end FileTree

namespace Source
open FileTree

def overDirectory (tree : FileTree) (workingDirectory root : String) (names : List String)
    (troubles : Troubles := {}) : Source FileTree String where
  container := inDirectory workingDirectory root troubles
  pending := .ofList (names.map .ok)
  store := tree

def accesses (directory : String) (index : Nat) : List (String × FileTree) → List Access
  | [] => [.listing directory index]
  | (name, node) :: rest =>
    .listing directory index :: .inspecting (fileBelow directory name) ::
      (match node with
        | .directory entries =>
          .opening (fileBelow directory name) :: accesses (fileBelow directory name) 0 entries
        | _ => []) ++ accesses directory (index + 1) rest

def search (path : String) : FileTree → List Access
  | .directory entries => .opening path :: accesses path 0 entries
  | _ => []

/-- A walk comes upon the listed files, if nothing is refused to it. -/
theorem walk_eq (ask : Access → Except RunError Unit) (directory : String) (index : Nat)
    (entries : List (String × FileTree)) :
    walk ask directory index entries = (do
      (accesses directory index entries).forM ask
      return (filesOf entries).map (·.1)) := by
  induction directory, index, entries using walk.induct with
  | case1 directory index => simp [walk, accesses, filesOf]
  | case2 directory index name node rest later inside =>
    cases node with
    | file content => simp [walk, accesses, later, filesOf_paths, pathsOf]
    | link target => simp [walk, accesses, later, filesOf_paths, pathsOf]
    | directory entries => simp [walk, accesses, later, inside, filesOf_paths, pathsOf]

def firstRefusal? (troubles : Troubles) (tree : FileTree) (workingDirectory : String)
    (asked : List Access) : Option RunError :=
  asked.findSome? fun a => (refusal? troubles tree workingDirectory a).map a.failure

theorem forM_ask (troubles : Troubles) (tree : FileTree) (workingDirectory : String)
    (asked : List Access) :
    asked.forM (ask troubles tree workingDirectory) =
      match firstRefusal? troubles tree workingDirectory asked with
      | some failure => .error failure
      | none => .ok () := by
  induction asked with
  | nil => rfl
  | cons a rest ih =>
    cases refused : refusal? troubles tree workingDirectory a with
    | some fault => simp [ask, firstRefusal?, refused, bind, Except.bind]
    | none =>
      simpa [ask, firstRefusal?, refused, bind, Except.bind] using ih

theorem ofDirectory_eq {tree : FileTree} {workingDirectory root : String}
    {entries : List (String × FileTree)} (troubles : Troubles)
    (opened : tree.stat workingDirectory root = .ok (.directory entries)) :
    ofDirectory tree workingDirectory root troubles =
      match firstRefusal? troubles tree workingDirectory (search root (.directory entries)) with
      | some failure => .error failure
      | none => .ok (overDirectory tree workingDirectory root
          (sortNames ((FileTree.directory entries).files.map (·.1))) troubles) := by
  have whole : ofDirectory tree workingDirectory root troubles = (do
      (search root (.directory entries)).forM (ask troubles tree workingDirectory)
      return overDirectory tree workingDirectory root
        (sortNames ((FileTree.directory entries).files.map (·.1))) troubles) := by
    rw [ofDirectory, opened]
    simp [walk_eq, search, files, overDirectory]
  rw [whole, forM_ask]
  cases firstRefusal? troubles tree workingDirectory (search root (.directory entries)) <;> rfl

theorem accesses_cons (directory : String) (index : Nat) (e : String × FileTree)
    (rest : List (String × FileTree)) :
    accesses directory index (e :: rest) =
      .listing directory index :: .inspecting (fileBelow directory e.1) ::
        (search (fileBelow directory e.1) e.2 ++ accesses directory (index + 1) rest) := by
  obtain ⟨name, node⟩ := e
  cases node <;> simp [accesses, search]

/-- The entries are listed to their end, each is inspected, and a directory among them searched. -/
theorem mem_accesses {a : Access} {directory : String} {index : Nat}
    {entries : List (String × FileTree)} :
    a ∈ accesses directory index entries ↔
      (∃ i ≤ entries.length, a = .listing directory (index + i)) ∨
        ∃ e ∈ entries, a = .inspecting (fileBelow directory e.1) ∨
          a ∈ search (fileBelow directory e.1) e.2 := by
  induction entries generalizing index with
  | nil => simp [accesses]
  | cons e rest ih =>
    have counted : (∃ i ≤ rest.length + 1, a = .listing directory (index + i)) ↔
        a = .listing directory index ∨
          ∃ i ≤ rest.length, a = .listing directory (index + 1 + i) := by
      constructor
      · rintro ⟨_ | i, inside, rfl⟩
        · exact .inl rfl
        · exact .inr ⟨i, by omega, by rw [Nat.add_right_comm, Nat.add_assoc]⟩
      · rintro (rfl | ⟨i, inside, rfl⟩)
        · exact ⟨0, by omega, rfl⟩
        · exact ⟨i + 1, by omega, by rw [Nat.add_right_comm, Nat.add_assoc]⟩
    simp only [accesses_cons, List.mem_cons, List.mem_append, ih, List.length_cons, counted,
      or_and_right, exists_or, exists_eq_left, or_assoc, or_left_comm]

theorem fileBelow_fileBelow {name : String} (proper : EntryName name) (root path : String) :
    fileBelow (fileBelow root name) path = fileBelow root (name ++ "/" ++ path) := by
  have ended : (fileBelow root name).toList.getLast? ≠ some '/' := by
    obtain ⟨before, cut, -⟩ := fileBelow_toList root name
    have given : name.toList ≠ [] := fun empty => proper.some (String.toList_eq_nil_iff.mp empty)
    rw [cut, List.getLast?_append_of_ne_nil _ (by simp), List.getLast?_cons_of_ne_nil given]
    exact fun last => proper.undivided (List.mem_of_getLast? last)
  rw [fileBelow, if_neg (by simpa using ended), fileBelow, fileBelow]
  split <;> simp [String.append_assoc]

theorem opened_below {t : FileTree} (wellFormed : t.WellFormed) {root directory : String}
    (asked : .opening directory ∈ search root t) :
    directory = root ∨ ∃ path inner, path ≠ [] ∧ t.nodeAt? path = some (.directory inner) ∧
      directory = fileBelow root ("/".intercalate path) := by
  induction wellFormed generalizing root with
  | file content => simp [search] at asked
  | link target => simp [search] at asked
  | @directory entries named distinct inside ih =>
    rcases List.mem_cons.mp asked with same | later
    · exact .inl (Access.opening.inj same)
    obtain ⟨i, -, other⟩ | ⟨e, among, other | below⟩ := mem_accesses.mp later
    · cases other
    · cases other
    right
    have proper := named e among
    have onward : ∀ rest,
        (FileTree.directory entries).nodeAt? (e.1 :: rest) = e.2.nodeAt? rest := by
      intro rest
      rw [nodeAt?, child?_of_mem distinct among]
      rfl
    rcases ih e among below with rfl | ⟨path, inner, longer, there, joined⟩
    · obtain ⟨inner, isDirectory⟩ : ∃ inner, e.2 = .directory inner := by
        cases node : e.2 with
        | directory inner => exact ⟨inner, rfl⟩
        | file content => simp [node, search] at below
        | link target => simp [node, search] at below
      exact ⟨[e.1], inner, by simp, by rw [onward, isDirectory]; rfl, by simp⟩
    · obtain ⟨next, rest, rfl⟩ := List.exists_cons_of_ne_nil longer
      refine ⟨e.1 :: next :: rest, inner, by simp, (onward _).trans there, ?_⟩
      rw [joined, fileBelow_fileBelow proper, String.intercalate_cons_cons]

section
variable {tree : FileTree} {workingDirectory root : String} {base path : List String}
  {entries inner : List (String × FileTree)}

theorem refusal_below (troubles : Troubles)
    (located : tree.locate workingDirectory root = .ok base)
    (found : tree.nodeAt? base = some (.directory entries))
    (wellFormed : (FileTree.directory entries).WellFormed) (proper : path ≠ [])
    (there : (FileTree.directory entries).nodeAt? path = some (.directory inner)) :
    let directory := fileBelow root ("/".intercalate path)
    refusal? troubles tree workingDirectory (.opening directory) =
      (pathFault? directory path).or (troubles.refused (.opening directory)) := by
  intro directory
  rw [refusal?, stat_below located found wellFormed proper there (by simp)]
  cases pathFault? directory path <;> rfl

theorem taken_above {more : List String} (proper : path ≠ []) (longer : more ≠ [])
    (taken : pathFault? (fileBelow root ("/".intercalate (path ++ more))) (path ++ more) = none) :
    pathFault? (fileBelow root ("/".intercalate path)) path = none := by
  have whole : fileBelow root ("/".intercalate (path ++ more)) =
      fileBelow root ("/".intercalate path) ++ "/" ++ "/".intercalate more := by
    rw [intercalate_append proper longer, fileBelow, fileBelow]
    split <;> simp [String.append_assoc]
  rw [pathFault?_eq_none_iff, whole] at taken
  obtain ⟨nul, short, narrow⟩ := taken
  rw [pathFault?_eq_none_iff]
  refine ⟨?_, ?_, ?_⟩
  · intro inside
    simp [inside] at nul
  · rw [String.utf8ByteSize_append, String.utf8ByteSize_append] at short
    omega
  · exact (List.forall_mem_append.mp narrow).1

end

theorem portion_untroubled (file : String) (bytes : Bytes) :
    ({} : Troubles).portion file bytes = (bytes, none) := by
  cases bytes <;> rfl

theorem overwrite_refused {tree : FileTree} {workingDirectory root name : String}
    {fault : OsFault} (troubles : Troubles) (a : Artifact)
    (refused : tree.locate workingDirectory (fileBelow root name) = .error fault) :
    overwrite troubles workingDirectory root name a tree =
      (.error (Access.failure (.emptying (fileBelow root name)) fault), tree) := by
  have unwritten : ∀ content, tree.write workingDirectory (fileBelow root name) content =
      .error fault := by
    intro content
    rw [write, refused]
    rfl
  simp only [overwrite, unwritten]

theorem overwrite_located {tree : FileTree} {workingDirectory root name : String}
    {place : List String} {old : Bytes} (troubles : Troubles) (a : Artifact)
    (arrives : tree.locate workingDirectory (fileBelow root name) = .ok place)
    (stands : tree.contentAt? place = some old) :
    let file := fileBelow root name
    let failed := Access.failure (.emptying file)
    let portion := troubles.portion file a.bytes
    overwrite troubles workingDirectory root name a tree =
      match troubles.refused (.emptying file), portion.2 with
      | some fault, _ => (.error (failed fault), tree)
      | none, some fault => (.error (failed fault), tree.setAt place (.file portion.1))
      | none, none => (.ok (), tree.setAt place (.file portion.1)) := by
  intro file failed portion
  have written := write_located arrives stands
  simp only [overwrite, written]
  cases troubles.refused (.emptying file) <;> cases portion.2 <;> rfl

end Source
end ClassForge
