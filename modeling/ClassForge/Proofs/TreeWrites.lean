import ClassForge.FileTree

/-!
Overwriting files in a tree. It changes the bytes at one place and nothing else: every other file
keeps its bytes, the same directories and links are there, and every path leads where it did.
-/
namespace ClassForge.FileTree

inductive Kind where
  | file
  | directory
  | link (target : String)
  deriving DecidableEq, Repr

def kind : FileTree → Kind
  | .file _ => .file
  | .directory _ => .directory
  | .link target => .link target

def kindAt? (t : FileTree) (place : List String) : Option Kind := (t.nodeAt? place).map kind

def content? : FileTree → Option Bytes
  | .file content => some content
  | _ => none

def contentAt? (t : FileTree) (place : List String) : Option Bytes :=
  (t.nodeAt? place).bind content?

theorem nodeAt?_of_contentAt? {t : FileTree} {place : List String} {content : Bytes}
    (found : t.contentAt? place = some content) : t.nodeAt? place = some (.file content) := by
  obtain ⟨node, there, inside⟩ := Option.bind_eq_some_iff.mp found
  cases node <;> simp_all [content?]

theorem child?_setEntry (name n : String) (node : FileTree) (entries : List (String × FileTree)) :
    (directory (setEntry name node entries)).child? n =
      if n = name then some node else (directory entries).child? n := by
  induction entries with
  | nil =>
    by_cases same : n = name
    · simp [setEntry, child?, same]
    · simp [setEntry, child?, same, Ne.symm same]
  | cons entry rest ih =>
    obtain ⟨first, old⟩ := entry
    simp only [child?] at ih ⊢
    by_cases here : first = name
    · subst here
      by_cases same : n = first
      · simp [setEntry, same]
      · simp [setEntry, same, Ne.symm same]
    · by_cases there : first = n
      · subst there
        simp [setEntry, here]
      · simpa [setEntry, here, there] using ih

/-- A file that is put in the place of another is seen there and nowhere else. What is looked at has
to be the same for all directories, since those on the way have a new node in them. -/
theorem nodeAt?_setAt {α : Type} (look : FileTree → α)
    (shallow : ∀ entries entries', look (.directory entries) = look (.directory entries'))
    {t : FileTree} {place : List String} {old : Bytes} (found : t.nodeAt? place = some (.file old))
    (content : Bytes) (q : List String) :
    ((t.setAt place (.file content)).nodeAt? q).map look =
      if q = place then some (look (.file content)) else (t.nodeAt? q).map look := by
  induction place generalizing t q with
  | nil =>
    obtain rfl : t = .file old := by simpa [nodeAt?] using found
    cases q <;> simp [setAt, nodeAt?, child?]
  | cons name rest ih =>
    cases t with
    | file content' => simp [nodeAt?, child?] at found
    | link target => simp [nodeAt?, child?] at found
    | directory entries =>
      rw [nodeAt?] at found
      obtain ⟨child, there, below⟩ := Option.bind_eq_some_iff.mp found
      have next : (directory entries).setAt (name :: rest) (.file content) =
          directory (setEntry name (child.setAt rest (.file content)) entries) := by
        rw [setAt, there]
        rfl
      rw [next]
      cases q with
      | nil => simpa [nodeAt?] using shallow _ _
      | cons n q =>
        rw [nodeAt?, nodeAt?, child?_setEntry]
        by_cases same : n = name
        · simpa [same, there] using ih below q
        · simp [same]

section
variable {t : FileTree} {place : List String} {old : Bytes}
  (found : t.contentAt? place = some old) (content : Bytes) (q : List String)
include found

theorem kindAt?_overwritten : (t.setAt place (.file content)).kindAt? q = t.kindAt? q := by
  have there := nodeAt?_of_contentAt? found
  have seen := nodeAt?_setAt kind (fun _ _ => rfl) there content q
  by_cases same : q = place
  · simpa [kindAt?, same, there, kind] using seen
  · simpa [kindAt?, same] using seen

theorem contentAt?_overwritten :
    (t.setAt place (.file content)).contentAt? q =
      if q = place then some content else t.contentAt? q := by
  have seen := nodeAt?_setAt content? (fun _ _ => rfl) (nodeAt?_of_contentAt? found)
    content q
  have joined : ∀ t : FileTree, t.contentAt? q = ((t.nodeAt? q).map content?).join := by
    intro t
    rw [contentAt?]
    cases t.nodeAt? q <;> rfl
  rw [joined, joined, seen]
  split <;> rfl

end

/-- Induction along a path: a proper name leads further down, or through a link to anywhere, but
then fewer links are left. -/
theorem path_induction {motive : Nat → List String → List String → Prop}
    (arrived : ∀ links done, motive links done [])
    (current : ∀ links done rest, motive links done rest → motive links done ("." :: rest))
    (parent : ∀ links done rest, motive links done.dropLast rest → motive links done (".." :: rest))
    (proper : ∀ links done name rest, name ≠ "." → name ≠ ".." →
      motive links (done ++ [name]) rest →
      (∀ fewer, links = fewer + 1 → ∀ done todo, motive fewer done todo) →
      motive links done (name :: rest))
    (links : Nat) (done todo : List String) : motive links done todo := by
  have onward : ∀ links name rest, (∀ done, motive links done rest) →
      (∀ fewer, links = fewer + 1 → ∀ done todo, motive fewer done todo) →
      ∀ done, motive links done (name :: rest) := by
    intro links name rest below beyond done
    by_cases isCurrent : name = "."
    · exact isCurrent ▸ current links done rest (below done)
    · by_cases isParent : name = ".."
      · exact isParent ▸ parent links done rest (below _)
      · exact proper links done name rest isCurrent isParent (below _) beyond
  induction links generalizing done todo with
  | zero =>
    induction todo generalizing done with
    | nil => exact arrived 0 done
    | cons name rest ih => exact onward 0 name rest ih nofun done
  | succ links earlier =>
    induction todo generalizing done with
    | nil => exact arrived _ done
    | cons name rest ih =>
      refine onward _ name rest ih (fun fewer more done todo => ?_) done
      obtain rfl : links = fewer := Nat.succ.inj more
      exact earlier done todo

theorem resolve_proper (t : FileTree) {name : String} (notCurrent : name ≠ ".")
    (notParent : name ≠ "..") (links : Nat) (done rest : List String) :
    t.resolve links done (name :: rest) =
      if nameLimit < name.utf8ByteSize then .error .nameTooLong
      else match t.kindAt? (done ++ [name]) with
        | none => if rest.isEmpty then .ok (done ++ [name]) else .error .notFound
        | some .file => if rest.isEmpty then .ok (done ++ [name]) else .error .notDirectory
        | some .directory => t.resolve links (done ++ [name]) rest
        | some (.link target) =>
          match links with
          | 0 => .error .tooManyLinks
          | links + 1 =>
            t.resolve links (if isAbsolute target then [] else done) (names target ++ rest) := by
  rw [resolve]
  split
  · rfl
  · rw [kindAt?]
    rcases t.nodeAt? (done ++ [name]) with _ | (_ | _ | _) <;> rfl
  · exact notCurrent
  · exact notParent

theorem end_of_path {rest here place : List String} {fault : OsFault}
    (ended : (if rest.isEmpty then .ok here else .error fault) =
      (.ok place : Except OsFault (List String))) : rest.isEmpty = true ∧ here = place := by
  split at ended
  · exact ⟨‹_›, Except.ok.inj ended⟩
  · cases ended

theorem resolve_of_located {t : FileTree} {workingDirectory path : String} {place : List String}
    (located : t.locate workingDirectory path = .ok place) :
    path ≠ "" ∧ t.resolve linkLimit
      (if isAbsolute path then [] else directoryNames workingDirectory) (names path) = .ok place := by
  rw [locate] at located
  split at located
  · cases located
  split at located
  · cases located
  split at located
  · cases located
  rename_i given _
  exact ⟨by simpa using given, located⟩

theorem located_of_stat {t node : FileTree} {workingDirectory path : String}
    (stated : t.stat workingDirectory path = .ok node) :
    ∃ place, t.locate workingDirectory path = .ok place ∧ t.nodeAt? place = some node := by
  rw [stat] at stated
  cases located : t.locate workingDirectory path with
  | error fault => simp [located, bind, Except.bind] at stated
  | ok place =>
    rw [located] at stated
    cases found : t.nodeAt? place with
    | none => simp [found, bind, Except.bind] at stated
    | some there => exact ⟨place, rfl, by simpa [found, bind, Except.bind] using stated⟩

theorem located_of_written {t after : FileTree} {workingDirectory path : String} {content : Bytes}
    (written : t.write workingDirectory path content = .ok after) :
    ∃ place, t.locate workingDirectory path = .ok place := by
  rw [write] at written
  cases located : t.locate workingDirectory path with
  | error fault => simp [located, bind, Except.bind] at written
  | ok place => exact ⟨place, rfl⟩

section
variable {t t' : FileTree} (same : ∀ place, t'.kindAt? place = t.kindAt? place)
include same

/-- Where a path leads depends only on what the nodes are. -/
theorem resolve_of_kinds (links : Nat) (done todo : List String) :
    t'.resolve links done todo = t.resolve links done todo := by
  induction links, done, todo using path_induction with
  | arrived => simp only [resolve]
  | current links done rest ih => rw [resolve, resolve, ih]
  | parent links done rest ih => rw [resolve, resolve, ih]
  | proper links done name rest notCurrent notParent below beyond =>
    rw [resolve_proper t' notCurrent notParent, resolve_proper t notCurrent notParent, same, below]
    cases links with
    | zero => rfl
    | succ fewer => simp only [beyond fewer rfl]

theorem locate_of_kinds (workingDirectory path : String) :
    t'.locate workingDirectory path = t.locate workingDirectory path := by
  simp only [locate, resolve_of_kinds same]

end

section
variable {t : FileTree} {workingDirectory path : String} {place : List String} {old : Bytes}
  (located : t.locate workingDirectory path = .ok place) (found : t.contentAt? place = some old)
include located found

theorem read_located : t.read workingDirectory path = .ok old := by
  have stated : t.stat workingDirectory path = .ok (.file old) := by
    rw [stat, located]
    simp only [bind, Except.bind, nodeAt?_of_contentAt? found]
  rw [read, stated]
  rfl

theorem write_located (content : Bytes) :
    t.write workingDirectory path content = .ok (t.setAt place (.file content)) := by
  rw [write, located]
  simp only [bind, Except.bind, nodeAt?_of_contentAt? found]

end

end ClassForge.FileTree
