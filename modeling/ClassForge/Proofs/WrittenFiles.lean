import ClassForge.Files
import ClassForge.Proofs.TreePaths

/-!
Files that are made. A file is put at one place, directories come to be above it, and no other node
changes. The path under which it was made leads to it afterwards, so that what is read is what was
written.
-/
namespace ClassForge

namespace FileTree

theorem child?_setAt (t : FileTree) (name : String) (rest : List String) (node : FileTree)
    (n : String) :
    (t.setAt (name :: rest) node).child? n =
      if n = name then some (((t.child? name).getD empty).setAt rest node) else t.child? n := by
  cases t with
  | directory entries => rw [setAt, child?_setEntry]
  | file content =>
    by_cases same : n = name
    · simp [setAt, child?, same]
    · simp [setAt, child?, same, Ne.symm same]
  | link target =>
    by_cases same : n = name
    · simp [setAt, child?, same]
    · simp [setAt, child?, same, Ne.symm same]

theorem nodeAt?_setAt_self (t : FileTree) (place : List String) (node : FileTree) :
    (t.setAt place node).nodeAt? place = some node := by
  induction place generalizing t with
  | nil => rfl
  | cons name rest ih =>
    rw [nodeAt?, child?_setAt, if_pos rfl]
    exact ih _

theorem kindAt?_setAt_above (t : FileTree) {place q : List String} (node : FileTree)
    (above : q <+: place) (other : q ≠ place) :
    (t.setAt place node).kindAt? q = some .directory := by
  obtain ⟨rest, rfl⟩ := above
  cases rest with
  | nil => simp at other
  | cons name rest => exact kindAt?_above (nodeAt?_setAt_self t (q ++ name :: rest) node)

theorem nodeAt?_setAt_empty {place q : List String} (content : Bytes) (apart : ¬q <+: place) :
    (empty.setAt place (.file content)).nodeAt? q = none := by
  induction place generalizing q with
  | nil =>
    cases q with
    | nil => simp at apart
    | cons n q => rfl
  | cons name rest ih =>
    cases q with
    | nil => simp at apart
    | cons n q =>
      rw [nodeAt?, child?_setAt]
      by_cases same : n = name
      · subst same
        simpa [empty, child?] using ih fun inside => apart ((List.prefix_cons_inj n).mpr inside)
      · simp [same, empty, child?]

theorem nodeAt?_setAt_apart {t : FileTree} {place q : List String} (content : Bytes)
    (undirected : t.kindAt? place ≠ some .directory) (apart : ¬q <+: place) :
    (t.setAt place (.file content)).nodeAt? q = t.nodeAt? q := by
  induction place generalizing t q with
  | nil =>
    cases q with
    | nil => simp at apart
    | cons n q => cases t <;> simp_all [setAt, nodeAt?, child?, kindAt?, kind]
  | cons name rest ih =>
    cases q with
    | nil => simp at apart
    | cons n q =>
      rw [nodeAt?, child?_setAt, nodeAt?]
      by_cases same : n = name
      · subst same
        have later : ¬q <+: rest := fun inside => apart ((List.prefix_cons_inj n).mpr inside)
        rw [if_pos rfl]
        cases there : t.child? n with
        | none => exact nodeAt?_setAt_empty content later
        | some child =>
          refine ih (fun isDirectory => undirected ?_) later
          simpa [kindAt?, nodeAt?, there] using isDirectory
      · rw [if_neg same]

/-- What a path leads to from a directory: nothing but directories is on the way, and no link is at
its end. -/
structure Arrived (t : FileTree) (place : List String) : Prop where
  above : ∀ q, q <+: place → q ≠ place → t.kindAt? q = some .directory
  unlinked : ∀ target, t.kindAt? place ≠ some (.link target)

theorem arrived_of_directory {t : FileTree} {place : List String}
    (isDirectory : t.kindAt? place = some .directory) : Arrived t place := by
  refine ⟨?_, by simp [isDirectory]⟩
  rintro q ⟨rest, rfl⟩ other
  obtain ⟨node, there, -⟩ := Option.map_eq_some_iff.mp isDirectory
  cases rest with
  | nil => simp at other
  | cons name rest => exact kindAt?_above there

theorem root_of_directory {t : FileTree} {place : List String}
    (isDirectory : t.kindAt? place = some .directory) : t.kindAt? [] = some .directory := by
  cases place with
  | nil => exact isDirectory
  | cons name rest => exact (arrived_of_directory isDirectory).above [] (by simp) (by simp)

theorem arrived_below {t : FileTree} {done : List String} {name : String}
    (isDirectory : t.kindAt? done = some .directory)
    (unlinked : ∀ target, t.kindAt? (done ++ [name]) ≠ some (.link target)) :
    Arrived t (done ++ [name]) := by
  refine ⟨fun q above other => ?_, unlinked⟩
  have within : q <+: done := (List.prefix_concat_iff.mp above).resolve_left other
  by_cases same : q = done
  · rw [same, isDirectory]
  · exact (arrived_of_directory isDirectory).above q within same

theorem resolve_arrives {t : FileTree} {place : List String} (links : Nat) (done todo : List String)
    (isDirectory : t.kindAt? done = some .directory)
    (arrives : t.resolve links done todo = .ok place) : Arrived t place := by
  induction links, done, todo using path_induction with
  | arrived links done =>
    rw [resolve] at arrives
    exact Except.ok.inj arrives ▸ arrived_of_directory isDirectory
  | current links done rest ih =>
    rw [resolve] at arrives
    exact ih isDirectory arrives
  | parent links done rest ih =>
    rw [resolve] at arrives
    refine ih ?_ arrives
    by_cases top : done = []
    · rwa [top] at isDirectory ⊢
    · have above : done.dropLast ≠ done := fun same => by
        have shorter := congrArg List.length same
        have some := List.length_pos_iff.mpr top
        rw [List.length_dropLast] at shorter
        omega
      exact (arrived_of_directory isDirectory).above _ (List.dropLast_prefix done) above
  | proper links done name rest notCurrent notParent below beyond =>
    rw [resolve_proper t notCurrent notParent] at arrives
    split at arrives
    · cases arrives
    split at arrives
    · rename_i none
      exact (end_of_path arrives).2 ▸ arrived_below isDirectory (by simp [none])
    · rename_i isFile
      exact (end_of_path arrives).2 ▸ arrived_below isDirectory (by simp [isFile])
    · rename_i further
      exact below further arrives
    · rename_i target isLink
      cases links with
      | zero => cases arrives
      | succ fewer =>
        refine beyond fewer rfl _ _ ?_ arrives
        split
        · exact root_of_directory isDirectory
        · exact isDirectory

section
variable {t : FileTree} {place : List String} (undirected : t.kindAt? place ≠ some .directory)
  (content : Bytes)
include undirected

theorem kindAt?_written (q : List String) :
    (t.setAt place (.file content)).kindAt? q =
      if q = place then some .file else if q <+: place then some .directory else t.kindAt? q := by
  by_cases same : q = place
  · rw [if_pos same, same, kindAt?, nodeAt?_setAt_self]
    rfl
  · rw [if_neg same]
    by_cases above : q <+: place
    · rw [if_pos above, kindAt?_setAt_above t _ above same]
    · rw [if_neg above, kindAt?, nodeAt?_setAt_apart content undirected above, kindAt?]

theorem resolve_written (links : Nat) (done todo : List String)
    (arrives : t.resolve links done todo = .ok place) :
    (t.setAt place (.file content)).resolve links done todo = .ok place := by
  induction links, done, todo using path_induction with
  | arrived links done => simpa only [resolve] using arrives
  | current links done rest ih =>
    rw [resolve] at arrives ⊢
    exact ih arrives
  | parent links done rest ih =>
    rw [resolve] at arrives ⊢
    exact ih arrives
  | proper links done name rest notCurrent notParent below beyond =>
    rw [resolve_proper _ notCurrent notParent] at arrives ⊢
    split at arrives
    · cases arrives
    rename_i short
    rw [if_neg short, kindAt?_written undirected]
    split at arrives
    · obtain ⟨last, same⟩ := end_of_path arrives
      simp only [same, last, ↓reduceIte]
    · obtain ⟨last, same⟩ := end_of_path arrives
      simp only [same, last, ↓reduceIte]
    · rename_i further
      have other : done ++ [name] ≠ place := fun same => undirected (same ▸ further)
      simp only [other, ↓reduceIte, further, ite_self]
      exact below arrives
    · rename_i target isLink
      cases links with
      | zero => cases arrives
      | succ fewer =>
        -- No link that was followed is on the way to the place.
        have isDirectory : t.kindAt? done = some .directory := by
          obtain ⟨node, there, -⟩ := Option.map_eq_some_iff.mp isLink
          exact kindAt?_above there
        have arrived : Arrived t place := by
          refine resolve_arrives fewer _ _ ?_ arrives
          split
          · exact root_of_directory isDirectory
          · exact isDirectory
        have other : done ++ [name] ≠ place := fun same => arrived.unlinked target (same ▸ isLink)
        have apart : ¬done ++ [name] <+: place := fun above => by
          have kinds := (arrived.above _ above other).symm.trans isLink
          cases kinds
        simp only [other, apart, ↓reduceIte, isLink]
        exact beyond fewer rfl _ _ arrives

end

/-- Where a file was written: a path leads to its place before and after. -/
theorem written_place {t after : FileTree} {workingDirectory path : String} {content : Bytes}
    (written : t.write workingDirectory path content = .ok after) :
    ∃ place, t.locate workingDirectory path = .ok place ∧ t.kindAt? place ≠ some .directory ∧
      after = t.setAt place (.file content) ∧ after.locate workingDirectory path = .ok place := by
  obtain ⟨place, located⟩ := located_of_written written
  have set : t.kindAt? place ≠ some .directory ∧ after = t.setAt place (.file content) := by
    rw [write, located] at written
    simp only [bind, Except.bind] at written
    rw [kindAt?]
    rcases there : t.nodeAt? place with _ | (_ | _ | _) <;> rw [there] at written
    · exact ⟨by simp, (Except.ok.inj written).symm⟩
    · exact ⟨by simp [kind], (Except.ok.inj written).symm⟩
    · cases written
    · exact ⟨by simp [kind], (Except.ok.inj written).symm⟩
  obtain ⟨undirected, rfl⟩ := set
  refine ⟨place, located, undirected, rfl, ?_⟩
  rw [locate] at located ⊢
  repeat' split at located
  all_goals simp_all [resolve_written]

theorem read_written {t after : FileTree} {workingDirectory path : String} {content : Bytes}
    (written : t.write workingDirectory path content = .ok after) :
    after.read workingDirectory path = .ok content := by
  obtain ⟨place, -, -, rfl, relocated⟩ := written_place written
  refine read_located relocated ?_
  rw [contentAt?, nodeAt?_setAt_self]
  rfl

theorem setEntry_setEntry (name : String) (node node' : FileTree)
    (entries : List (String × FileTree)) :
    setEntry name node' (setEntry name node entries) = setEntry name node' entries := by
  induction entries with
  | nil => simp [setEntry]
  | cons entry rest ih =>
    by_cases here : entry.1 = name
    · simp [setEntry, here]
    · simp [setEntry, here, ih]

theorem setAt_setAt (t : FileTree) (place : List String) (node node' : FileTree) :
    (t.setAt place node).setAt place node' = t.setAt place node' := by
  induction place generalizing t with
  | nil => rfl
  | cons name rest ih =>
    cases t with
    | directory entries =>
      simp only [setAt, child?_setEntry, if_true, Option.getD_some, ih, setEntry_setEntry]
    | _ => simp [setAt, setEntry, child?, ih]

theorem write_again {t after : FileTree} {workingDirectory path : String} {content : Bytes}
    (written : t.write workingDirectory path content = .ok after) (content' : Bytes) :
    ∃ tree, t.write workingDirectory path content' = .ok tree ∧
      after.write workingDirectory path content' = .ok tree := by
  obtain ⟨place, located, undirected, rfl, relocated⟩ := written_place written
  have there : (t.setAt place (.file content)).contentAt? place = some content := by
    rw [contentAt?, nodeAt?_setAt_self]
    rfl
  refine ⟨t.setAt place (.file content'), ?_, ?_⟩
  · rw [write, located]
    simp only [bind, Except.bind]
    rw [kindAt?] at undirected
    rcases found : t.nodeAt? place with _ | (_ | _ | _) <;> simp [found, kind] at undirected ⊢
  · rw [write_located relocated there, setAt_setAt]

end FileTree

namespace Workspace

/-- The workspace `v` is what has become of `w`: one file has this content, all else is as before. -/
structure Made (w : Workspace) (path : String) (content : Bytes) (v : Workspace) : Prop where
  tree : w.tree.write w.directory path content = .ok v.tree
  directory : v.directory = w.directory

def Smooth (w : Workspace) : Prop := ∀ m ∈ w.mishaps, m = none

theorem accessed (w : Workspace) : ∃ mishap v, w.access = (mishap, v) ∧ v.tree = w.tree ∧
    v.directory = w.directory ∧ (w.Smooth → mishap = none ∧ v.Smooth) := by
  refine ⟨_, _, rfl, rfl, rfl, fun smooth => ?_⟩
  obtain ⟨tree, directory, mishaps⟩ := w
  cases mishaps with
  | nil => exact ⟨rfl, List.forall_mem_nil _⟩
  | cons m later =>
    obtain ⟨here, fine⟩ := List.forall_mem_cons.mp smooth
    exact ⟨here, fine⟩

section
variable {w v : Workspace} {path : String} {content : Bytes}

theorem Made.read (made : Made w path content v) : v.read path = .ok content := by
  rw [Workspace.read, made.directory]
  exact FileTree.read_written made.tree

theorem create_made (w : Workspace) (path : String) :
    (∃ fault after, w.create path = (.error fault, after) ∧ after.tree = w.tree ∧
        (w.Smooth → w.tree.write w.directory path [] = .error fault)) ∨
      ∃ after, w.create path = (.ok path, after) ∧ Made w path [] after ∧
        (w.Smooth → after.Smooth) := by
  obtain ⟨mishap, v, accessed, tree, directory, smooth⟩ := w.accessed
  rw [create, accessed]
  cases mishap with
  | some m => exact .inl ⟨m.fault, v, rfl, tree, fun fine => nomatch (smooth fine).1⟩
  | none =>
    dsimp only
    rw [write, tree, directory]
    cases written : w.tree.write w.directory path [] with
    | error fault => exact .inl ⟨fault, v, rfl, tree, fun _ => rfl⟩
    | ok made => exact .inr ⟨_, rfl, ⟨written, rfl⟩, fun fine => (smooth fine).2⟩

/-- Of what is put behind the content of a file that was made, at least a front is there. -/
theorem Made.append_made (made : Made w path content v) (bytes : Bytes) :
    ∃ fault front after, v.append path bytes = (fault, after) ∧ front <+: bytes ∧
      Made w path (content ++ front) after ∧ (fault = none → front = bytes) ∧
      (v.Smooth → fault = none ∧ after.Smooth) := by
  unfold append
  split
  · rename_i empty
    obtain rfl := List.isEmpty_iff.mp empty
    exact ⟨none, [], v, rfl, List.nil_prefix, by rwa [List.append_nil], fun _ => rfl,
      fun smooth => ⟨rfl, smooth⟩⟩
  · obtain ⟨mishap, u, accessed, tree, directory, smooth⟩ := v.accessed
    have held : u.read path = .ok content := by
      rw [Workspace.read, tree, directory]
      exact made.read
    rw [accessed]
    dsimp only
    rw [held, write, tree, directory, made.directory]
    cases mishap with
    | none =>
      obtain ⟨after, written, again⟩ := FileTree.write_again made.tree (content ++ bytes)
      dsimp only [Except.toOption, Option.getD_some]
      rw [again]
      exact ⟨none, bytes, _, rfl, List.prefix_rfl, ⟨written, rfl⟩, fun _ => rfl, fun fine =>
        ⟨rfl, (smooth fine).2⟩⟩
    | some m =>
      obtain ⟨after, written, again⟩ :=
        FileTree.write_again made.tree (content ++ bytes.take m.kept)
      dsimp only [Except.toOption, Option.getD_some]
      rw [again]
      exact ⟨some m.fault, _, _, rfl, List.take_prefix _ _, ⟨written, rfl⟩, nofun,
        fun fine => nomatch (smooth fine).1⟩

end
end Workspace
end ClassForge
