import ClassForge.Plugin
import ClassForge.Proofs.TreePaths

/-!
Class files below a directory. The name under which a class file is stored never leads upwards, so
it leads to a place below the directory unless a link leads elsewhere. Names that begin with a dot
or a slash are stored under absolute names, and those are looked up wherever the directory is.
-/
namespace ClassForge

namespace TypeName

theorem entryName_absolute (t : TypeName) : FileTree.isAbsolute t.entryName = true ↔
    t.name.toList.head? = some '.' ∨ t.name.toList.head? = some '/' := by
  rw [FileTree.isAbsolute, beq_iff_eq, entryName_toList]
  cases t.name.toList with
  | nil => simp
  | cons c cs => by_cases dot : c = '.' <;> simp [dot]

theorem entryName_components (t : TypeName) :
    ∀ c ∈ FileTree.components t.entryName, c ≠ "." ∧ c ≠ ".." := by
  rw [FileTree.components, entryName_toList]
  let inside := t.name.toList.map fun c => if c = '.' then '/' else c
  have undotted : '.' ∉ inside := by
    rw [List.mem_map]
    rintro ⟨c, -, same⟩
    split at same
    · simp at same
    · exact absurd same ‹_›
  obtain ⟨before, last, first, after, left, right, whole⟩ :=
    Text.pieces_meet '/' inside ".class".toList
  have suffix : Text.pieces '/' ".class".toList = [".class".toList] :=
    Text.pieces_of_absent '/' (by simp)
  obtain ⟨rfl, rfl⟩ := List.cons.inj (suffix.symm.trans right)
  rw [whole]
  intro c member
  obtain ⟨p, piece, rfl⟩ := List.mem_map.mp member
  rcases List.mem_append.mp piece with early | ending
  · have clear : '.' ∉ p := fun dot =>
      undotted (Text.mem_of_mem_pieces '/' (left ▸ List.mem_append_left _ early) dot).1
    constructor <;> rintro same <;> simp [← String.toList_inj] at same <;> simp [same] at clear
  · obtain rfl := List.mem_singleton.mp ending
    constructor <;> intro same <;> simpa using congrArg (·.toList.length) same

theorem entryName_last (t : TypeName) : t.entryName.toList.getLast? = some 's' := by
  rw [entryName_toList, List.getLast?_append]
  rfl

end TypeName

namespace FileTree

section
variable {root path : String} (relative : isAbsolute path = false)
include relative

theorem join_of_given (given : root ≠ "") : join root path = Source.fileBelow root path := by
  have some : root.isEmpty = false := by simpa using given
  simp [join, Source.fileBelow, relative, some]

theorem join_of_empty : join "" path = path := by simp [join, relative]

theorem isAbsolute_join : isAbsolute (join root path) = isAbsolute root := by
  by_cases given : root = ""
  · rw [given, join_of_empty relative, relative]
    rfl
  · rw [join_of_given relative given, isAbsolute_below given]

theorem names_join {c : Char} (last : path.toList.getLast? = some c) (other : c ≠ '/') :
    names (join root path) = parts root ++ parts path := by
  by_cases given : root = ""
  · rw [given, join_of_empty relative, names_of_last last other]
    rfl
  · rw [join_of_given relative given, names_of_below last other]

end

def Unlinked (t : FileTree) (path : List String) : Prop :=
  ∀ place, place <+: path → ∀ target, t.nodeAt? place ≠ some (.link target)

theorem resolve_straight {t below : FileTree} {base path place : List String} {links : Nat}
    (found : t.nodeAt? base = some below) (unlinked : below.Unlinked path)
    (downward : ∀ name ∈ path, name ≠ "." ∧ name ≠ "..")
    (arrives : t.resolve links base path = .ok place) : place = base ++ path := by
  induction path generalizing base below with
  | nil =>
    rw [resolve] at arrives
    exact (List.append_nil base).symm ▸ (Except.ok.inj arrives).symm
  | cons name rest ih =>
    obtain ⟨⟨notCurrent, notParent⟩, later⟩ := List.forall_mem_cons.mp downward
    rw [resolve_proper t notCurrent notParent] at arrives
    have there : t.nodeAt? (base ++ [name]) = below.nodeAt? [name] := by
      rw [nodeAt?_append, found]
      rfl
    split at arrives
    · cases arrives
    rcases here : below.nodeAt? [name] with _ | (content | entries | target)
    · rw [kindAt?, there, here] at arrives
      cases rest with
      | nil => exact (Except.ok.inj arrives).symm
      | cons next rest => cases arrives
    · rw [kindAt?, there, here] at arrives
      cases rest with
      | nil => exact (Except.ok.inj arrives).symm
      | cons next rest => cases arrives
    · rw [kindAt?, there, here] at arrives
      have onward : (directory entries).Unlinked rest := by
        intro place before target linked
        refine unlinked (name :: place) ((List.prefix_cons_inj name).mpr before) target ?_
        rw [← List.singleton_append, nodeAt?_append, here]
        exact linked
      rw [List.append_cons]
      exact ih (there.trans here) onward later arrives
    · have first : [name] <+: name :: rest := (List.prefix_cons_inj name).mpr (List.nil_prefix)
      exact absurd here (unlinked [name] first target)

theorem stated_of_read {t : FileTree} {workingDirectory path : String} {content : Bytes}
    (done : t.read workingDirectory path = .ok content) :
    t.stat workingDirectory path = .ok (.file content) := by
  rw [read] at done
  rcases stated : t.stat workingDirectory path with fault | (_ | _ | _) <;>
    simp_all [bind, Except.bind]

/-- Where relative paths lead that are put behind a path to a directory: from there on, with the
links that are left. -/
theorem resolve_onward {t : FileTree} {workingDirectory root : String}
    {entries : List (String × FileTree)}
    (opened : t.stat workingDirectory (join root ".") = .ok (.directory entries)) :
    ∃ base fewer, t.nodeAt? base = some (.directory entries) ∧
      ∀ {path : String} {c : Char}, isAbsolute path = false → path.toList.getLast? = some c →
        c ≠ '/' → t.resolve linkLimit
          (if isAbsolute (join root path) then [] else directoryNames workingDirectory)
          (names (join root path)) = t.resolve fewer base (parts path) := by
  obtain ⟨base, arrived, found⟩ := located_of_stat opened
  obtain ⟨-, first⟩ := resolve_of_located arrived
  have here : isAbsolute "." = false := rfl
  have current : parts "." = ["."] := by decide
  rw [isAbsolute_join here, names_join here rfl (by decide), current] at first
  obtain ⟨fewer, through⟩ := resolve_through found (.inr rfl) _ _ _ first
  refine ⟨base, fewer, found, fun relative last other => ?_⟩
  rw [isAbsolute_join relative, names_join relative last other, through]

theorem read_below {t : FileTree} {workingDirectory root path : String}
    {entries : List (String × FileTree)} {content : Bytes} {c : Char}
    (relative : isAbsolute path = false) (last : path.toList.getLast? = some c) (other : c ≠ '/')
    (downward : ∀ name ∈ components path, name ≠ "." ∧ name ≠ "..")
    (opened : t.stat workingDirectory (join root ".") = .ok (.directory entries))
    (unlinked : (directory entries).Unlinked (parts path))
    (done : t.read workingDirectory (join root path) = .ok content) :
    (directory entries).contentAt? (parts path) = some content := by
  obtain ⟨place, located, there⟩ := located_of_stat (stated_of_read done)
  obtain ⟨-, arrives⟩ := resolve_of_located located
  obtain ⟨base, fewer, found, onward⟩ := resolve_onward opened
  rw [onward relative last other] at arrives
  have down : ∀ name ∈ parts path, name ≠ "." ∧ name ≠ ".." :=
    fun name member => downward name (List.mem_filter.mp member).1
  obtain rfl := resolve_straight found unlinked down arrives
  rw [nodeAt?_append, found] at there
  rw [contentAt?, show (directory entries).nodeAt? (parts path) = _ from there]
  rfl

end FileTree

namespace Locator

theorem directory_found {t : FileTree} {workingDirectory root name : String} {content : Bytes} :
    directory t workingDirectory root name = .ok (some content) ↔
      t.read workingDirectory (FileTree.join root (TypeName.mk name).entryName) = .ok content := by
  unfold directory
  generalize t.read workingDirectory _ = done
  rcases done with (_ | _) | _ <;> simp

theorem directory_refused {t : FileTree} {workingDirectory root name : String} {fault : OsFault}
    (refused : t.read workingDirectory (FileTree.join root (TypeName.mk name).entryName) =
      .error fault) (present : fault ≠ .notFound) :
    directory t workingDirectory root name = .error fault := by
  unfold directory
  generalize t.read workingDirectory _ = done at refused ⊢
  subst refused
  cases fault <;> simp_all

structure LooksBelow (t : FileTree) (workingDirectory root name entry : String) : Prop where
  downward : ∀ c ∈ FileTree.components entry, c ≠ "." ∧ c ≠ ".."
  found_iff : ∀ content, directory t workingDirectory root name = .ok (some content) ↔
    t.read workingDirectory (FileTree.join root entry) = .ok content
  relative : FileTree.isAbsolute entry = false →
    FileTree.join root entry = root ++ entry ∨ FileTree.join root entry = root ++ "/" ++ entry
  /-- What is found is a file of the directory, unless it is reached by a link. -/
  below : FileTree.isAbsolute entry = false → ∀ entries content,
    t.stat workingDirectory (FileTree.join root ".") = .ok (.directory entries) →
      (FileTree.directory entries).Unlinked (FileTree.parts entry) →
        directory t workingDirectory root name = .ok (some content) →
          (FileTree.directory entries).contentAt? (FileTree.parts entry) = some content
  absolute : FileTree.isAbsolute entry = true → FileTree.join root entry = entry

/-- The class file of a type is looked for below the directory, unless the name of the type begins
with a dot or a slash: then it is looked for where its own name leads, whatever the directory. -/
theorem class_files_below_directory (t : FileTree) (workingDirectory root name : String) :
    let entry := (TypeName.mk name).entryName
    LooksBelow t workingDirectory root name entry ∧ (FileTree.isAbsolute entry = true ↔
      name.toList.head? = some '.' ∨ name.toList.head? = some '/') := by
  intro entry
  refine ⟨?_, TypeName.entryName_absolute ⟨name⟩⟩
  constructor
  case downward => exact TypeName.entryName_components ⟨name⟩
  case found_iff => exact fun content => directory_found
  case relative =>
    intro relative
    rw [FileTree.join, if_neg (by simp [relative])]
    split
    · exact .inl rfl
    · exact .inr rfl
  case below =>
    intro relative entries content opened unlinked found
    exact FileTree.read_below relative (TypeName.entryName_last ⟨name⟩) (by decide)
      (TypeName.entryName_components ⟨name⟩) opened unlinked (directory_found.mp found)
  case absolute =>
    intro absolute
    rw [FileTree.join, if_pos absolute]

/-- A name that begins with a dot leads out of the directory. -/
theorem dotted_name_escapes :
    ¬ ∀ (t : FileTree) (workingDirectory root name : String) (entries : List (String × FileTree))
      (content : Bytes),
      t.stat workingDirectory (FileTree.join root ".") = .ok (.directory entries) →
        (∀ path, (FileTree.directory entries).Unlinked path) →
          directory t workingDirectory root name = .ok (some content) →
            ∃ place, (FileTree.directory entries).contentAt? place = some content := by
  intro confined
  let t : FileTree := .directory [("Foo.class", .file [1]), ("classes", .directory [])]
  have opened : t.stat "/" (FileTree.join "/classes" ".") = .ok (.directory []) := by
    have path : FileTree.join "/classes" "." = "/classes/." := by decide
    have names : FileTree.names "/classes/." = ["classes", "."] := by decide
    have located : t.locate "/" "/classes/." = .ok ["classes"] := by
      rw [FileTree.locate, names]
      simp [t, FileTree.resolve, FileTree.isAbsolute, FileTree.nodeAt?, FileTree.child?,
        FileTree.nameLimit, FileTree.pathLimit]
      rfl
    rw [path, FileTree.stat, located]
    rfl
  have found : directory t "/" "/classes" ".Foo" = .ok (some [1]) := by
    have path : FileTree.join "/classes" (TypeName.mk ".Foo").entryName = "/Foo.class" := by decide
    have names : FileTree.names "/Foo.class" = ["Foo.class"] := by decide
    have located : t.locate "/" "/Foo.class" = .ok ["Foo.class"] := by
      rw [FileTree.locate, names]
      simp [t, FileTree.resolve, FileTree.isAbsolute, FileTree.nodeAt?, FileTree.child?,
        FileTree.nameLimit, FileTree.pathLimit]
      rfl
    rw [directory_found, path]
    exact FileTree.read_located located rfl
  have unlinked : ∀ path, (FileTree.directory []).Unlinked path := by
    intro path place _ target
    cases place <;> simp [FileTree.nodeAt?, FileTree.child?]
  obtain ⟨place, inside⟩ := confined t "/" "/classes" ".Foo" [] [1] opened unlinked found
  cases place <;>
    simp [FileTree.contentAt?, FileTree.nodeAt?, FileTree.child?, FileTree.content?] at inside

end Locator
end ClassForge
