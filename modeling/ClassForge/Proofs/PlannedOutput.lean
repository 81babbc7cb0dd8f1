import ClassForge.Console.Session
import ClassForge.Pattern.Engine
import ClassForge.Proofs.Replanning
import ClassForge.Proofs.StreamedArchives

/-!
What planning leaves behind when it fails. Nothing is written before the whole archive has been
planned, and a file that cannot be made changes nothing; but a file that was made holds what could
be written until the name of an entry was refused or an access went wrong.
-/
namespace ClassForge
open Text

theorem Workspace.gather (w : Workspace) (paths : List String) :
    ∃ answers, (Files.gather paths : StateM Workspace FileReader) w = (answers, w) ∧
      ∀ path ∈ paths, answers path = w.read path := by
  let contents := paths.map fun path => (path, w.read path)
  have gathered : (paths.mapM fun path => do return (path, ← Files.read path) :
      StateM Workspace (List (String × Except OsFault Bytes))) w = (contents, w) := by
    induction paths with
    | nil => rfl
    | cons path rest ih =>
      rw [List.mapM_cons]
      exact congrArg (fun c => ((path, w.read path) :: c.1, c.2)) ih
  let answer (c : List (String × Except OsFault Bytes)) : FileReader :=
    fun path => (c.lookup path).getD (.error .notFound)
  let answered (c : List (String × Except OsFault Bytes) × Workspace) := (answer c.1, c.2)
  refine ⟨answer contents, congrArg answered gathered, fun path member => ?_⟩
  simp only [answer, contents, List.lookup_graph w.read member, Option.getD_some]

namespace Console

theorem writeArchive_outcome (w : Workspace) (path : String) (l : Ledger) :
    (∃ (fault : OsFault) (after : Workspace), after.tree = w.tree ∧
      (w.Smooth → w.tree.write w.directory path [] = .error fault) ∧
      (writeArchive path l : StateM Workspace (Option RunError)) w =
        (some (.io ("creating " ++ path) fault.detail), after)) ∨
    ∃ err content after, w.Made path content after ∧ l.WritesOut err content ∧
      (w.Smooth → err = Ledger.writeError l.written ∧ content = l.written.bytes) ∧
      (writeArchive path l : StateM Workspace (Option RunError)) w = (err, after) := by
  obtain ⟨fault, after, refused, unchanged, easy⟩ | ⟨begun, created, made, smooth⟩ :=
    w.create_made path
  · refine .inl ⟨fault, after, unchanged, easy, ?_⟩
    simp only [writeArchive, bind, StateT.bind, Files.create, refused]
    rfl
  · obtain ⟨err, content, after, ran, filled, written, fine⟩ := Ledger.writeTo_made made l
    refine .inr ⟨err, content, after, filled, written, fun easy => fine (smooth easy), ?_⟩
    simp only [writeArchive, bind, StateT.bind, Files.create, created]
    exact ran

section
variable [PatternEngine] {w after : Workspace} {color : Bool} {s : Settings} {archive : String}
  {output : Option String} {selected : List String} {printed : Printed} {err : RunError}

theorem perform_plan :
    (perform color s (.plan archive output selected) : StateM Workspace Printed) w =
      (plan w.read color s archive output selected : StateM Workspace Printed) w := by
  obtain ⟨answers, gathered, answered⟩ :=
    w.gather (s.plugins.filterMap (·.manifest) ++ (archive? (.plan archive output selected)).toList)
  have alike : Planning.ManifestsAlike s w.read answers := fun p member path named =>
    answered path (List.mem_append_left _ (List.mem_filterMap.mpr ⟨p, member, named⟩))
  have same : answers archive = w.read archive :=
    answered archive (List.mem_append_right _ (by simp [archive?]))
  have planned : plan answers color s archive output selected =
      (plan w.read color s archive output selected : StateM Workspace Printed) := by
    unfold plan
    rw [Planning.plan_alike alike same]
  rw [← planned]
  unfold perform
  simp only [bind, StateT.bind, gathered]

/-- Planning fails before anything is written, or at the file that is to be made, or when the
archive is written to the file that was made. -/
inductive PlanFailure (w : Workspace) (s : Settings) (archive : String) (output : Option String)
    (selected : List String) : RunError → Workspace → Prop where
  | unplanned {err : RunError} (failed : Planning.plan w.read s archive selected = .error err) :
      PlanFailure w s archive output selected err w
  | unmade {path : String} {r : Planning.Result} {fault : OsFault} {after : Workspace}
      (asked : output = some path) (planned : Planning.plan w.read s archive selected = .ok r)
      (unchanged : after.tree = w.tree) :
      PlanFailure w s archive output selected (.io ("creating " ++ path) fault.detail) after
  | brokenOff {path : String} {r : Planning.Result} {err : RunError} {content : Bytes}
      {after : Workspace} (asked : output = some path)
      (planned : Planning.plan w.read s archive selected = .ok r)
      (broken : Ledger.BrokenOff r.ledger err content) (made : w.Made path content after)
      (smooth : w.Smooth → Ledger.writeError r.ledger.written = some err ∧
        content = r.ledger.written.bytes) :
      PlanFailure w s archive output selected err after

theorem plan_failure
    (ran : (plan w.read color s archive output selected : StateM Workspace Printed) w =
      (printed, after)) (failed : printed.error = some err) :
    PlanFailure w s archive output selected err after := by
  unfold plan at ran
  cases planned : Planning.plan w.read s archive selected with
  | error fault =>
    rw [planned] at ran
    obtain ⟨rfl, rfl⟩ := Prod.mk.inj ran
    exact Option.some.inj failed ▸ .unplanned planned
  | ok r =>
    rw [planned] at ran
    cases output with
    | none =>
      obtain ⟨rfl, rfl⟩ := Prod.mk.inj ran
      cases failed
    | some path =>
      simp only [bind, StateT.bind] at ran
      obtain ⟨fault, left, unchanged, -, wrote⟩ |
        ⟨fault, content, left, made, written, smooth, wrote⟩ := writeArchive_outcome w path r.ledger
      · simp only [wrote] at ran
        obtain ⟨rfl, rfl⟩ := Prod.mk.inj ran
        obtain rfl := Option.some.inj failed
        exact .unmade rfl planned unchanged
      · simp only [wrote] at ran
        cases fault with
        | none =>
          obtain ⟨rfl, rfl⟩ := Prod.mk.inj ran
          cases failed
        | some fault =>
          obtain ⟨rfl, rfl⟩ := Prod.mk.inj ran
          obtain rfl := Option.some.inj failed
          exact .brokenOff rfl planned (written.brokenOff _ rfl) made fun easy =>
            ⟨(smooth easy).1.symm, (smooth easy).2⟩

structure LeftBehind (w after : Workspace) (s : Settings) (archive : String)
    (output : Option String) (selected : List String) (err : RunError) : Prop where
  /-- No file changes, unless the output was made and its writing was broken off. -/
  unchanged_or_brokenOff : after.tree = w.tree ∨ ∃ path r content, output = some path ∧
    Planning.plan w.read s archive selected = .ok r ∧ Ledger.BrokenOff r.ledger err content ∧
    w.tree.write w.directory path content = .ok after.tree ∧ after.read path = .ok content ∧
    (w.Smooth → content = r.ledger.written.bytes)
  unchanged_of_stored : w.Smooth → (∀ l, Planning.openArchive w.read archive = .ok l →
    ∀ x ∈ l, (Tar.storedName? x.name).isSome) → after.tree = w.tree

/-- A plan that fails changes nothing but an output that could not be written to its end. -/
theorem failed_plan_leaves
    (ran : (perform color s (.plan archive output selected) : StateM Workspace Printed) w =
      (printed, after)) (failed : printed.error = some err) :
    LeftBehind w after s archive output selected err := by
  rw [perform_plan] at ran
  constructor
  case unchanged_or_brokenOff =>
    cases plan_failure ran failed with
    | unplanned => exact .inl rfl
    | unmade _ _ unchanged => exact .inl unchanged
    | brokenOff asked planned broken made smooth =>
      exact .inr ⟨_, _, _, asked, planned, broken, made.tree, made.read, fun easy =>
        (smooth easy).2⟩
  case unchanged_of_stored =>
    intro easy named
    cases plan_failure ran failed with
    | unplanned => rfl
    | unmade _ _ unchanged => exact unchanged
    | brokenOff asked planned broken made smooth =>
      obtain ⟨e, ledger, -, opened, -, rfl⟩ := Planning.plan_settles planned
      -- a name that is stored stays so when its entry is settled
      have stored : ∀ x ∈ (Planning.settleAll s e.version
          (Planning.manifests w.read s selected) ledger).ledger,
          (Tar.storedName? x.name).isSome := by
        simpa [Planning.settleAll, Planning.settle] using named ledger opened
      obtain ⟨bytes, whole⟩ := Ledger.write_ok_iff.mpr stored
      obtain ⟨refused, -⟩ := smooth easy
      rw [Ledger.write, refused] at whole
      cases whole

end

open scoped Pattern

def slashedName : Bytes := 47 :: 97 :: List.replicate 98 0

def slashedArchive : Bytes :=
  Tar.blocks (Tar.fileHeader slashedName [42].length) [42] ++ Tar.ending

theorem slashedArchive_opened : Ledger.ofArchive slashedArchive = .ok [⟨"/a", [42], .pending⟩] := by
  rw [slashedArchive]
  exact @Ledger.ofArchive_single "/a" slashedName [42] (by decide) (by decide) (by decide)

def slashedPlace : Workspace where
  tree := .directory [("app.tar", .file slashedArchive)]
  directory := "/"

theorem slashedPlace_located :
    slashedPlace.tree.locate slashedPlace.directory "app.tar" = .ok ["app.tar"] := by
  have names : FileTree.names "app.tar" = ["app.tar"] := by decide
  have root : FileTree.directoryNames slashedPlace.directory = [] := by decide
  rw [FileTree.locate, names, root]
  simp [slashedPlace, FileTree.resolve, FileTree.isAbsolute, FileTree.nodeAt?, FileTree.child?,
    FileTree.nameLimit, FileTree.pathLimit]
  rfl

/-- The archive is planned, and then written to its own place. -/
theorem slashedPlace_brokenOff :
    ∃ printed err after, (perform false {} (.plan "app.tar" (some "app.tar") []) :
      StateM Workspace Printed) slashedPlace = (printed, after) ∧ printed.error = some err ∧
        after.read "app.tar" = .ok Tar.ending := by
  have opened : Planning.openArchive slashedPlace.read "app.tar" =
      .ok [⟨"/a", [42], .pending⟩] := by
    have read : slashedPlace.read "app.tar" = .ok slashedArchive :=
      FileTree.read_located slashedPlace_located rfl
    rw [Planning.openArchive, read]
    exact slashedArchive_opened
  obtain ⟨report, planned⟩ : ∃ report, Planning.plan slashedPlace.read {} "app.tar" [] =
      .ok ⟨report, [], [⟨"/a", [42], .retained⟩]⟩ := by
    rw [Planning.plan, opened]
    exact ⟨_, rfl⟩
  have written : Ledger.written [⟨"/a", [42], .retained⟩] =
      ⟨Tar.ending, some ("/a", .absoluteName)⟩ := rfl
  have easy : slashedPlace.Smooth := List.forall_mem_nil _
  rw [perform_plan]
  unfold plan
  simp only [planned, bind, StateT.bind]
  obtain ⟨fault, after, -, refused, -⟩ | ⟨err, content, after, made, -, smooth, wrote⟩ :=
    writeArchive_outcome slashedPlace "app.tar" [⟨"/a", [42], .retained⟩]
  · have makes := FileTree.write_located slashedPlace_located rfl []
    rw [refused easy] at makes
    cases makes
  · obtain ⟨rfl, rfl⟩ := smooth easy
    have left := made.read
    rw [written] at left wrote
    simp only [wrote]
    exact ⟨_, _, after, rfl, rfl, left⟩

/-- The plan fails, and what is left is the end of an archive. -/
theorem failed_plan_leaves_slashed :
    ∃ (printed : Printed) (err : RunError) (after : Workspace),
      (perform false {} (.plan "app.tar" (some "app.tar") []) : StateM Workspace Printed)
        slashedPlace = (printed, after) ∧ printed.error = some err ∧
      after.read "app.tar" = .ok Tar.ending ∧
      LeftBehind slashedPlace after {} "app.tar" (some "app.tar") [] err := by
  obtain ⟨printed, err, after, ran, failed, left⟩ := slashedPlace_brokenOff
  exact ⟨printed, err, after, ran, failed, left, failed_plan_leaves ran failed⟩

/-- The output of a failed plan is not always as it was, even where it is the archive itself. -/
theorem failed_plan_empties_archive :
    ¬ ∀ (w after : Workspace) (color : Bool) (s : Settings) (archive path : String)
      (selected : List String) (printed : Printed),
      (perform color s (.plan archive (some path) selected) : StateM Workspace Printed) w =
        (printed, after) → printed.error.isSome → after.read path = w.read path := by
  intro alone
  obtain ⟨printed, err, after, ran, failed, left⟩ := slashedPlace_brokenOff
  have kept := alone _ _ _ _ _ _ _ _ ran (by simp [failed])
  have before : slashedPlace.read "app.tar" = .ok slashedArchive :=
    FileTree.read_located slashedPlace_located rfl
  rw [left, before] at kept
  have first : Tar.ending.head? = slashedArchive.head? := by rw [Except.ok.inj kept]
  have other : slashedArchive.head? = some 47 := rfl
  rw [other] at first
  cases first

end Console

end ClassForge
