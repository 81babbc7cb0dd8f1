import ClassForge.Proofs.ClassEntries
import ClassForge.Proofs.LocatedClasses

/-!
Types and the names under which their class files are stored. A class file is stored under the entry
name of its type unless there is a dot in its path, and a type is found again under its entry name
if each of its parts can be that of a path. So a class file below a directory is located by the name
of its type.
-/
namespace ClassForge

section
variable {old new : Char} {cs : List Char}

theorem replaced_back (absent : new ∉ cs) :
    (cs.map fun c => if c = old then new else c).map (fun c => if c = new then old else c) =
      cs := by
  rw [List.map_map]
  refine (List.map_congr_left fun c member => ?_).trans cs.map_id
  by_cases same : c = old
  · simp [same]
  · have other : c ≠ new := fun isNew => absent (isNew ▸ member)
    simp [same, other]

theorem replaced_absent (differ : old ≠ new) :
    old ∉ cs.map fun c => if c = old then new else c := by
  rw [List.mem_map]
  rintro ⟨c, -, same⟩
  split at same
  · exact differ same.symm
  · exact absurd same ‹_›

theorem pieces_replaced (absent : new ∉ cs) :
    Text.pieces new (cs.map fun c => if c = old then new else c) = Text.pieces old cs := by
  induction cs with
  | nil => rfl
  | cons c cs ih =>
    obtain ⟨other, later⟩ := not_or.mp (List.mem_cons.not.mp absent)
    by_cases same : c = old
    · simp [Text.pieces, same, ih later]
    · simp [Text.pieces, same, Ne.symm other, ih later]

end

namespace Text

theorem pieces_head?_eq_nil_iff {sep : Char} {cs : List Char} :
    (pieces sep cs).head? = some [] ↔ cs = [] ∨ cs.head? = some sep := by
  cases cs with
  | nil => simp [pieces]
  | cons c cs =>
    by_cases same : c = sep
    · simp [pieces, same]
    · obtain ⟨p, ps, later⟩ := List.exists_cons_of_ne_nil (pieces_ne_nil sep cs)
      simp [pieces, same, later]

end Text

namespace TypePool

theorem Cut.last {path directory simple : List Char} (cut : Cut path directory simple) :
    (Text.pieces '/' path).getLast? = some simple := by
  obtain ⟨rfl, within, undivided⟩ := cut
  rcases within with rfl | ended
  · rw [List.nil_append, Text.pieces_of_absent '/' undivided]
    rfl
  · obtain ⟨before, rfl⟩ := List.getLast?_eq_some_iff.mp ended
    rw [List.append_assoc, List.singleton_append, Text.pieces_append,
      Text.pieces_of_absent '/' undivided, List.getLast?_concat]

end TypePool

namespace TypeName

def segments (t : TypeName) : List (List Char) := Text.pieces '.' t.name.toList

end TypeName

namespace TypePool

/-- The path of a class file with no dot but that of the suffix. -/
def Undotted (path : List Char) : Prop := ∃ stem, path = stem ++ ".class".toList ∧ '.' ∉ stem

/-- The class file of a type is stored where the type is found again. -/
structure Storable (skip : List String) (t : TypeName) : Prop where
  undivided : '/' ∉ t.name.toList
  first : t.segments.head? ≠ some []
  last : ∀ segment ∈ t.segments.getLast?,
    segment ∉ [[], "module-info".toList, "package-info".toList]
  unskipped : ∀ start ∈ "META-INF/" :: skip, ¬start.toList <+: t.entryName.toList

theorem entryName_unled {t : TypeName} (undivided : '/' ∉ t.name.toList)
    (first : t.segments.head? ≠ some []) : Unled t.entryName.toList := by
  rw [TypeName.segments, Ne, Text.pieces_head?_eq_nil_iff] at first
  rw [TypeName.entryName_toList, unled_iff]
  rcases cut : t.name.toList with _ | ⟨c, cs⟩
  · exact absurd (.inl cut) first
  · rw [cut] at first undivided
    have notDot : '.' ≠ c := fun same => first (.inr (congrArg some same.symm))
    have notSlash : '/' ≠ c := fun same => undivided (same ▸ List.mem_cons_self)
    simp [notDot, notDot.symm, notSlash]

theorem not_absolute_of_unled {path : String} (unled : Unled path.toList) :
    FileTree.isAbsolute path = false := by
  rw [FileTree.isAbsolute, beq_eq_false_iff_ne]
  intro slash
  obtain ⟨rest, whole⟩ := List.head?_eq_some_iff.mp slash
  exact unled .root ⟨rest, whole.symm⟩

section
variable {skip : List String} {t : TypeName}

theorem entryName_eq_iff {name : String} (resolves : Resolves skip name t) :
    t.entryName.toList = relative name.toList ↔ Undotted (relative name.toList) := by
  obtain ⟨directory, simple, entry⟩ := resolves_iff.mp resolves
  rw [TypeName.entryName_toList, entry.whole, List.append_cancel_right_eq, entry.named]
  constructor
  · intro same
    exact ⟨directory ++ simple, rfl, same ▸ replaced_absent (by decide)⟩
  · rintro ⟨stem, whole, undotted⟩
    rw [List.append_cancel_right whole]
    exact replaced_back undotted

theorem resolves_of_storable (storable : Storable skip t) : Resolves skip t.entryName t := by
  have whole : relative t.entryName.toList = t.entryName.toList :=
    relative_of_unled (entryName_unled storable.undivided storable.first)
  obtain ⟨directory, cut⟩ := cut_lastName t.internal.toList
  have last := cut.last
  rw [TypeName.internal_toList, pieces_replaced storable.undivided] at last
  refine resolves_iff.mpr ⟨directory, lastName t.internal.toList, ?_⟩
  rw [whole]
  constructor
  case unskipped => exact storable.unskipped
  case whole => rw [← cut.whole, TypeName.entryName, String.toList_append]
  case within => exact cut.within
  case undivided => exact cut.undivided
  case typed => exact storable.last _ (by rwa [TypeName.internal_toList])
  case named => rw [← cut.whole, TypeName.internal_toList, replaced_back storable.undivided]

theorem relative_entryName (resolves : Resolves skip t.entryName t) :
    relative t.entryName.toList = t.entryName.toList := by
  obtain ⟨directory, simple, entry⟩ := resolves_iff.mp resolves
  obtain ⟨leads, led⟩ := led_relative t.entryName.toList
  have within : relative t.entryName.toList <:+ t.entryName.toList := ⟨_, led.whole.symm⟩
  -- Without the suffix, either has as many characters as the name of the type, so none is dropped.
  refine within.eq_of_length ?_
  have characters := congrArg List.length entry.named
  rw [entry.whole, TypeName.entryName_toList]
  simp only [List.length_append, List.length_map] at characters ⊢
  rw [characters]

theorem storable_of_resolves (resolves : Resolves skip t.entryName t) : Storable skip t := by
  have whole := relative_entryName resolves
  obtain ⟨directory, simple, entry⟩ := resolves_iff.mp resolves
  rw [whole] at entry
  have undivided : '/' ∉ t.name.toList := entry.named ▸ replaced_absent (by decide)
  have ends : t.internal.toList ++ ".class".toList = directory ++ simple ++ ".class".toList := by
    rw [← entry.whole, TypeName.entryName, String.toList_append]
  have cut : Cut t.internal.toList directory simple :=
    ⟨List.append_cancel_right ends, entry.within, entry.undivided⟩
  constructor
  case undivided => exact undivided
  case first =>
    rw [TypeName.segments, Ne, Text.pieces_head?_eq_nil_iff]
    rintro (empty | dotted)
    · have nothing : directory ++ simple = [] := by
        rw [← cut.whole, TypeName.internal_toList, empty]
        rfl
      exact entry.typed (by simp [(List.append_eq_nil_iff.mp nothing).2])
    -- The slash that the first dot becomes would be dropped as a lead.
    · have absolute := t.entryName_absolute.mpr (.inl dotted)
      have unled : Unled t.entryName.toList := whole ▸ unled_relative t.entryName.toList
      rw [not_absolute_of_unled unled] at absolute
      cases absolute
  case last =>
    intro segment last
    rw [TypeName.segments, ← pieces_replaced undivided, ← TypeName.internal_toList,
      cut.last] at last
    exact Option.some.inj last ▸ entry.typed
  case unskipped => exact entry.unskipped

end

end TypePool

namespace FileTree

/-- Why a path to a file that is there leads nowhere: the system takes no path that is too long, nor
one with a name that is. -/
def pathFault? (path : String) (names : List String) : Option OsFault :=
  if path.toList.contains (Char.ofNat 0) then some .invalidName
  else if pathLimit ≤ path.utf8ByteSize ∨ ∃ name ∈ names, nameLimit < name.utf8ByteSize then
    some .nameTooLong
  else none

theorem pathFault?_ne_notFound (path : String) (names : List String) :
    pathFault? path names ≠ some .notFound := by
  rw [pathFault?]
  split
  · simp
  · split <;> simp

section
variable {t : FileTree} {workingDirectory root path : String} {entries : List (String × FileTree)}
  {content : Bytes}

theorem locate_of_resolved {names place : List String} (filled : ¬path.isEmpty = true)
    (arrives : t.resolve linkLimit (if isAbsolute path then [] else directoryNames workingDirectory)
      (FileTree.names path) =
        if ∃ c ∈ names, nameLimit < c.utf8ByteSize then .error .nameTooLong else .ok place) :
    t.locate workingDirectory path =
      match pathFault? path names with
      | some fault => .error fault
      | none => .ok place := by
  rw [locate, if_neg filled, arrives, pathFault?]
  by_cases nul : path.toList.contains (Char.ofNat 0) = true
  · simp only [nul, ↓reduceIte]
  by_cases long : pathLimit ≤ path.utf8ByteSize
  · simp only [nul, long, true_or, ↓reduceIte, Bool.false_eq_true]
  by_cases wide : ∃ c ∈ names, nameLimit < c.utf8ByteSize
  · simp only [nul, long, wide, or_true, ↓reduceIte, Bool.false_eq_true]
  · simp only [nul, long, wide, or_self, ↓reduceIte, Bool.false_eq_true]

theorem unled_of_components (named : ∀ c ∈ components path, EntryName c) :
    TypePool.Unled path.toList := by
  rintro (_ | _) ⟨rest, whole⟩
  · have current : "." ∈ components path := by
      rw [components, ← whole, show TypePool.Lead.here.text ++ rest = ['.'] ++ '/' :: rest from rfl,
        Text.pieces_append]
      simp [Text.pieces]
    exact (named "." current).notCurrent rfl
  · have nothing : "" ∈ components path := by
      rw [components, ← whole, show TypePool.Lead.root.text ++ rest = [] ++ '/' :: rest from rfl,
        Text.pieces_append]
      simp [Text.pieces]
    exact (named "" nothing).some rfl

theorem read_refused {fault : OsFault} (refused : t.locate workingDirectory path = .error fault) :
    t.read workingDirectory path = .error fault := by
  rw [read, stat, refused]
  rfl

theorem join_filled (some : path ≠ "") : ¬(join root path).isEmpty = true := by
  rw [String.isEmpty_iff, join]
  split
  · exact some
  · split <;> simp [some]

theorem locate_listed (opened : t.stat workingDirectory (join root ".") = .ok (.directory entries))
    (stands : StandsIn (.directory entries) path content) :
    match pathFault? (join root path) (components path) with
    | some fault => t.locate workingDirectory (join root path) = .error fault
    | none => ∃ place, t.locate workingDirectory (join root path) = .ok place ∧
      t.contentAt? place = some content := by
  obtain ⟨base, fewer, found, onward⟩ := resolve_onward opened
  have given : ∀ c ∈ components path, c ≠ "" := fun c member => (stands.named c member).some
  obtain ⟨c, last, other⟩ := last_of_components given
  have filled : ¬(join root path).isEmpty = true := join_filled fun empty => by simp [empty] at last
  have there : t.contentAt? (base ++ components path) = some content := by
    rw [contentAt?, nodeAt?_append, found]
    exact stands.there
  -- A path that began with a slash would be followed from the top, whatever the root.
  have relative := TypePool.not_absolute_of_unled (unled_of_components stands.named)
  have arrives := onward relative last other
  rw [parts_of_components given, resolve_down base _ stands.named there] at arrives
  rw [locate_of_resolved filled arrives]
  cases pathFault? (join root path) (components path) with
  | some fault => rfl
  | none => exact ⟨_, rfl, there⟩

theorem read_listed (opened : t.stat workingDirectory (join root ".") = .ok (.directory entries))
    (stands : StandsIn (.directory entries) path content) :
    t.read workingDirectory (join root path) =
      match pathFault? (join root path) (components path) with
      | some fault => .error fault
      | none => .ok content := by
  have arrives := locate_listed opened stands
  split at arrives
  · exact read_refused arrives
  · obtain ⟨place, located, there⟩ := arrives
    exact read_located located there

end

end FileTree

structure ClassFileIn (skip : List String) (entries : List (String × FileTree)) (name : String)
    (content : Bytes) (t : TypeName) : Prop where
  listed : (name, content) ∈ (FileTree.directory entries).files
  resolves : TypePool.Resolves skip name t
  undotted : TypePool.Undotted (TypePool.relative name.toList)

/-- A class file is located by the name of its type, if its path is taken at all. -/
theorem Locator.located_by_type {skip : List String} {tree : FileTree}
    {workingDirectory root name : String} {entries : List (String × FileTree)} {content : Bytes}
    {t : TypeName}
    (opened : tree.stat workingDirectory (FileTree.join root ".") = .ok (.directory entries))
    (wellFormed : (FileTree.directory entries).WellFormed)
    (inside : ClassFileIn skip entries name content t) :
    directory tree workingDirectory root t.name =
      match FileTree.pathFault? (FileTree.join root name) (FileTree.components name) with
      | some fault => .error fault
      | none => .ok (some content) := by
  have stands : FileTree.StandsIn (.directory entries) name content :=
    FileTree.standsIn_of_mem wellFormed _ inside.listed
  have unled := FileTree.unled_of_components stands.named
  have stored : t.entryName.toList = name.toList :=
    ((TypePool.entryName_eq_iff inside.resolves).mpr inside.undotted).trans
      (TypePool.relative_of_unled unled)
  obtain rfl : t.entryName = name := String.toList_inj.mp stored
  have done := FileTree.read_listed opened stands
  cases refused : FileTree.pathFault? (FileTree.join root t.entryName)
    (FileTree.components t.entryName) with
  | none =>
    rw [refused] at done
    exact directory_found.mpr done
  | some fault =>
    rw [refused] at done
    refine directory_refused done fun absent => ?_
    exact FileTree.pathFault?_ne_notFound _ _ (absent ▸ refused)

namespace TypePool

structure Inverse (skip : List String) : Prop where
  entryName_iff : ∀ name t, Resolves skip name t →
    (t.entryName.toList = relative name.toList ↔ Undotted (relative name.toList))
  resolves_iff : ∀ t, Resolves skip t.entryName t ↔ Storable skip t
  /-- A class file is found with its bytes under the name of its type. One thing can prevent that,
  which is no matter of names: the operating system takes no path that is too long, nor a name in it
  that is, and then its refusal is the answer. -/
  located : ∀ (tree : FileTree) (workingDirectory root : String)
    (entries : List (String × FileTree)) (name : String) (content : Bytes) (t : TypeName),
    tree.stat workingDirectory (FileTree.join root ".") = .ok (.directory entries) →
    (FileTree.directory entries).WellFormed → ClassFileIn skip entries name content t →
      Locator.directory tree workingDirectory root t.name =
        match FileTree.pathFault? (FileTree.join root name) (FileTree.components name) with
        | some fault => .error fault
        | none => .ok (some content)

/-- Entry names and types are inverse to each other where no dot stands in a path and no slash in
a name. -/
theorem entry_names_inverse (skip : List String) : Inverse skip where
  entryName_iff _ _ := entryName_eq_iff
  resolves_iff _ := ⟨storable_of_resolves, resolves_of_storable⟩
  located _ _ _ _ _ _ _ := Locator.located_by_type

/-- A class file is located by its type; one with a dot in its name is not stored under the name of
its own. -/
theorem entry_names_inverse_dotted :
    let package : List (String × FileTree) := [("Foo.class", .file [1]), ("a.b.class", .file [2])]
    let classes : List (String × FileTree) := [("com", .directory package)]
    let tree : FileTree := .directory [("classes", .directory classes)]
    Locator.directory tree "/" "/classes" "com.Foo" = .ok (some [1]) ∧
      Resolves [] "com/a.b.class" ⟨"com.a.b"⟩ ∧
      (TypeName.mk "com.a.b").entryName.toList ≠ relative "com/a.b.class".toList := by
  intro package classes tree
  have inverse := entry_names_inverse []
  have named : ∀ name ∈ ["com", "Foo.class", "a.b.class"], FileTree.EntryName name := by
    intro name member
    constructor <;> revert name <;> decide
  have inner : (FileTree.directory package).WellFormed :=
    .directory (by simp [package, named]) (by simp [package])
      (by simpa [package] using ⟨.file [1], .file [2]⟩)
  have wellFormed : (FileTree.directory classes).WellFormed :=
    .directory (by simp [classes, named]) (by simp [classes]) (by simpa [classes] using inner)
  have opened : tree.stat "/" (FileTree.join "/classes" ".") = .ok (.directory classes) := by
    have path : FileTree.join "/classes" "." = "/classes/." := by decide
    have names : FileTree.names "/classes/." = ["classes", "."] := by decide
    have located : tree.locate "/" "/classes/." = .ok ["classes"] := by
      rw [FileTree.locate, names]
      simp [tree, FileTree.resolve, FileTree.isAbsolute, FileTree.nodeAt?, FileTree.child?,
        FileTree.nameLimit, FileTree.pathLimit]
      rfl
    rw [path, FileTree.stat, located]
    rfl
  have listed : ("com/Foo.class", [1]) ∈ (FileTree.directory classes).files := by
    simp [classes, package, FileTree.files, FileTree.filesOf]
  have inside : ClassFileIn [] classes "com/Foo.class" [1] ⟨"com.Foo"⟩ :=
    ⟨listed, by decide, "com/Foo".toList, by decide, by decide⟩
  have dotted : Resolves [] "com/a.b.class" ⟨"com.a.b"⟩ := by decide
  refine ⟨?_, dotted, fun stored => ?_⟩
  · rw [inverse.located tree "/" "/classes" classes _ _ _ opened wellFormed inside]
    decide
  · obtain ⟨stem, whole, undotted⟩ := (inverse.entryName_iff _ _ dotted).mp stored
    have same : stem = "com/a.b".toList :=
      List.append_cancel_right (whole.symm.trans (by decide : _ = _ ++ ".class".toList))
    exact undotted (same ▸ by decide)

end TypePool
end ClassForge
