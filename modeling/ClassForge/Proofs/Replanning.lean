import ClassForge.Pattern.Engine
import ClassForge.Proofs.ArchiveRoundTrip
import ClassForge.Proofs.PlannedArchive

/-!
Planning an archive that was planned before. Planning looks at the names of the entries only, which
an archive keeps when its ledger is written, so that the same plans come to stand where they stood.
-/
namespace ClassForge
open Text

theorem Tar.ArchiveName.stored {name : String} (h : Tar.ArchiveName name) :
    Tar.storedName? name = some name := by
  rw [Tar.storedName?, h.plain.stored, Option.map_some, Utf8.decodeLossy_encode,
    String.ofList_toList]

namespace Ledger

theorem write_congr {l l' : Ledger} (same : l'.contents = l.contents) : l'.write = l.write := by
  have written : l'.written = l.written := congrArg Tar.write same
  rw [write, write, written]

end Ledger

/-- New bytes that have taken the place of others would take the place of themselves. -/
theorem LedgerEntry.bytes_again (name : String) (initial : Bytes) (d : Disposition) :
    (⟨name, (⟨name, initial, d⟩ : LedgerEntry).bytes, d⟩ : LedgerEntry).bytes =
      (⟨name, initial, d⟩ : LedgerEntry).bytes := by
  cases d <;> rfl

namespace Planning

def ManifestsAlike (s : Settings) (read read' : FileReader) : Prop :=
  ∀ p ∈ s.plugins, ∀ path, p.manifest = some path → read' path = read path

section
variable [PatternEngine] {s : Settings} {read read' : FileReader}
  (alike : ManifestsAlike s read read')
include alike

theorem entry_alike {p : PluginDeclaration} (member : p ∈ s.plugins) :
    (entry read' p : RegistryEntry Unit PlanBuilder) = entry read p := by
  have same : Manifest.declared read' p = Manifest.declared read p := by
    unfold Manifest.declared
    cases named : p.manifest with
    | none => rfl
    | some path => simp only [Manifest.load, alike p member path named]
  rw [entry, entry, same]

theorem registry_alike : (registry read' s : Registry Unit PlanBuilder) = registry read s := by
  rw [registry, registry]
  exact congrArg Registry.ofEntries (List.map_congr_left fun _ member => entry_alike alike member)

theorem plan_alike {archive : String} (same : read' archive = read archive)
    (selected : List String) : plan read' s archive selected = plan read s archive selected := by
  rw [plan, plan, registry_alike alike, openArchive, openArchive, same]

end

structure PlannedAgain (res again : Result) (bytes : Bytes) : Prop where
  report_eq : again.report = res.report
  failures_eq : again.failures = res.failures
  names_eq : again.ledger.names = res.ledger.names
  dispositions_eq : again.ledger.map (·.disposition) = res.ledger.map (·.disposition)
  written_alike : again.ledger.write = .ok bytes

section
variable [PatternEngine] (s : Settings) (v : FormatVersion) (ms : List Manifest)

theorem settleAll_contents (ledger : Ledger) :
    (settleAll s v ms ledger).ledger.contents =
      List.zipWith
        (fun name initial => (name, (⟨name, initial, fate s v ms name⟩ : LedgerEntry).bytes))
        ledger.names (ledger.map (·.initial)) := by
  rw [Ledger.names, List.zipWith_map, List.zipWith_self, settleAll, Ledger.contents, List.map_map]
  rfl

variable {s v ms} {ledger reread : Ledger} (names : reread.names = ledger.names)
include names

theorem settleAll_contents_again
    (initial : reread.map (·.initial) = (settleAll s v ms ledger).ledger.map (·.bytes)) :
    (settleAll s v ms reread).ledger.contents = (settleAll s v ms ledger).ledger.contents := by
  rw [settleAll_contents, names, initial, settleAll, Ledger.names, List.map_map, List.zipWith_map,
    List.zipWith_self, Ledger.contents, List.map_map]
  refine List.map_congr_left fun x _ => ?_
  -- The bytes that were read the second time matter only where no artifact takes their place.
  exact congrArg (x.name, ·) (LedgerEntry.bytes_again x.name x.initial (fate s v ms x.name))

theorem settleAll_again {bytes : Bytes}
    (initial : reread.map (·.initial) = (settleAll s v ms ledger).ledger.map (·.bytes))
    (written : (settleAll s v ms ledger).ledger.write = .ok bytes) :
    PlannedAgain (settleAll s v ms ledger) (settleAll s v ms reread) bytes := by
  refine ⟨?_, rfl, ?_, ?_, ?_⟩
  · rw [settleAll_report, settleAll_report, names]
  · rw [settleAll_names, settleAll_names, names]
  · rw [settleAll_dispositions, settleAll_dispositions, names]
  · rw [Ledger.write_congr (settleAll_contents_again names initial), written]

end

section
variable [PatternEngine] {read read' : FileReader} {s : Settings}
  {archive output : String} {selected : List String} {e : Engine (Unit × TypePool.Cache) Unit PlanBuilder}
  {ledger reread : Ledger}

/-- Whether an archive can be planned depends on the names of its entries. -/
theorem plan_of_names (alike : ManifestsAlike s read read')
    (built : engine s (registry read s) selected = .ok e)
    (free : ∀ x ∈ ledger, ¬Blocked s (manifests read s selected) x.name)
    (reopened : openArchive read' output = .ok reread) (names : reread.names = ledger.names) :
    plan read' s output selected =
      .ok (settleAll s e.version (manifests read s selected) reread) := by
  have rebuilt : engine s (registry read' s) selected = .ok e := by rwa [registry_alike alike]
  have same : manifests read' s selected = manifests read s selected := by
    rw [manifests, manifests, registry_alike alike]
  have freeNames : ∀ name ∈ ledger.names, ¬Blocked s (manifests read s selected) name :=
    List.forall_mem_map.mpr free
  rw [← names] at freeNames
  have covers := plan_covers rebuilt reopened
  rw [same] at covers
  obtain ⟨⟨x, member, blocked⟩, -⟩ | ⟨-, settled⟩ := covers
  · exact absurd blocked (freeNames x.name (List.mem_map_of_mem member))
  · exact settled

/-- Planning once more what was planned and written gives the same plans and the same archive. -/
theorem planning_idempotent {res : Result} (opened : openArchive read archive = .ok ledger)
    (named : ∀ x ∈ ledger, Tar.ArchiveName x.name)
    (planned : plan read s archive selected = .ok res)
    (short : ∀ x ∈ res.ledger, (Utf8.encode x.name).length < Tar.memoryLimit)
    (small : ∀ x ∈ res.ledger, x.bytes.length < Tar.memoryLimit) :
    ∃ bytes, res.ledger.write = .ok bytes ∧
      ∀ (read' : FileReader) (output : String), read' output = .ok bytes →
        ManifestsAlike s read read' →
        ∃ again, plan read' s output selected = .ok again ∧ PlannedAgain res again bytes := by
  obtain ⟨e, ledger', built, opened', free, rfl⟩ := plan_settles planned
  obtain rfl : ledger = ledger' := Except.ok.inj (opened.symm.trans opened')
  let ms := manifests read s selected
  have kept : ∀ x ∈ (settleAll s e.version ms ledger).ledger,
      Tar.storedName? x.name = some x.name := by
    simpa [settleAll, settle] using fun x member => (named x member).stored
  obtain ⟨bytes, reread, written, reopened, names, initial⟩ :=
    Ledger.write_ok_keeps short small kept
  rw [settleAll_names] at names
  refine ⟨bytes, written, fun read' output archived alike => ?_⟩
  have opens : openArchive read' output = .ok reread := by simpa [openArchive, archived]
  exact ⟨settleAll s e.version ms reread, plan_of_names alike built free opens names,
    settleAll_again names initial written⟩

end

open scoped Pattern

/-- A class file and another file, of which the first gets a plan. -/
theorem planning_idempotent_small :
    ∃ ledger res, openArchive smallArchive "app.tar" = .ok ledger ∧
      plan smallArchive tracedAndAudited "app.tar" ["audit"] = .ok res ∧
      res.report.transformed = 1 ∧
      ∃ bytes, res.ledger.write = .ok bytes ∧
        ∃ again, plan (fun _ => .ok bytes) tracedAndAudited "planned.tar" ["audit"] = .ok again ∧
          PlannedAgain res again bytes := by
  let ledger : Ledger := [⟨"app/Main.class", [1], .pending⟩, ⟨"README", [], .pending⟩]
  have opened : openArchive smallArchive "app.tar" = .ok ledger := by decide +kernel
  have computed : (plan smallArchive tracedAndAudited "app.tar" ["audit"]).toOption.any (fun res =>
      res.report.transformed = 1 ∧
        (∀ x ∈ res.ledger, (Utf8.encode x.name).length < Tar.memoryLimit) ∧
        ∀ x ∈ res.ledger, x.bytes.length < Tar.memoryLimit) = true := by decide +kernel
  cases planned : plan smallArchive tracedAndAudited "app.tar" ["audit"] with
  | error err => simp [planned, Except.toOption] at computed
  | ok res =>
    rw [planned] at computed
    obtain ⟨transformed, short, small⟩ := of_decide_eq_true computed
    have named : ∀ x ∈ ledger, Tar.ArchiveName x.name := by
      have main : Tar.ArchiveName "app/Main.class" := ⟨by decide, by decide⟩
      have readme : Tar.ArchiveName "README" := ⟨by decide, by decide⟩
      simp [ledger, main, readme]
    have alike (bytes : Bytes) :
        ManifestsAlike tracedAndAudited smallArchive (fun _ => .ok bytes) := by
      simp [ManifestsAlike, tracedAndAudited, tracePlugin, auditPlugin]
    obtain ⟨bytes, written, again⟩ := planning_idempotent opened named planned short small
    exact ⟨ledger, res, opened, rfl, transformed, bytes, written,
      again (fun _ => .ok bytes) "planned.tar" rfl (alike bytes)⟩

end Planning
end ClassForge
