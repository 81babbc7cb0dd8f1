import ClassForge.Pattern.Engine
import ClassForge.Proofs.PlannedArchive

/-!
Scanning against planning. A scan asks the pool of every entry; a run asks one that remembers, and
only of the entries that it comes to. Of an archive that can be planned they say the same.
-/
namespace ClassForge
open List (Forall₂)
variable {S E : Type}

theorem Source.map_places {α : Type} (f : String → α) (names : List String) :
    (Source.places names).map (fun x => f x.name) = names.map f := by
  have whole : (names.zipIdx.map Prod.fst).map f = names.map f := by rw [List.zipIdx_map_fst]
  rw [Source.places, List.map_map, ← whole, List.map_map]
  rfl

namespace Planning

theorem scanAll_lines (pool : TypePool Unit) (c : Container S E) (xs : List E) (store : S) :
    ∃ left, scanAll pool c (.ofList (xs.map .ok)) store =
      .ok (xs.map fun x => ⟨c.name x, (pool.describe (c.name x) ()).1.type?⟩, left) := by
  induction xs generalizing store with
  | nil => exact ⟨store, rfl⟩
  | cons x xs ih =>
    obtain ⟨left, later⟩ := ih (c.retain x (c.handOut x store))
    refine ⟨left, ?_⟩
    rw [List.map_cons, Supply.ofList, scanAll, later]
    rfl

theorem scanSource_lines (pool : TypePool Unit) {c : Container S E}
    (closes : ∀ store, (c.close store).1 = .ok ()) (xs : List E) (store : S) :
    scanSource pool ⟨c, .ofList (xs.map .ok), store⟩ =
      .ok (xs.map fun x => ⟨c.name x, (pool.describe (c.name x) ()).1.type?⟩) := by
  obtain ⟨left, lines⟩ := scanAll_lines pool c xs store
  rw [scanSource, lines]
  simp only [bind, Except.bind, closes]
  rfl

def lineOf (s : Settings) (name : String) : ScanLine :=
  ⟨name, TypePool.classFile s.source.skipPrefixes name⟩

theorem scan_lines {read : FileReader} {s : Settings} {archive : String} {ledger : Ledger}
    (opened : openArchive read archive = .ok ledger) :
    scan read s archive = .ok (ledger.names.map (lineOf s)) := by
  have scanned : scanSource (.classFiles s.source.skipPrefixes) (.ofLedger ledger) = _ :=
    scanSource_lines _ (fun _ => rfl) (Source.places ledger.names) ledger
  rw [scan, opened]
  exact scanned.trans (congrArg Except.ok (Source.map_places (lineOf s) ledger.names))

structure ScanAgrees (lines : List ScanLine) (res : Result) : Prop where
  entries_eq : lines.map (·.entry) = res.ledger.names
  typed : lines.countP (·.type?.isSome) =
    res.report.transformed + res.report.ignored + res.report.failed
  untyped : lines.countP (·.type?.isNone) = res.report.unresolved
  /-- What took the place of an entry is of the type that the line tells. -/
  replaced : Forall₂ (fun line x => ∀ a, x.disposition = .replaced a → line.type? = some a.type)
    lines res.ledger

section
variable [PatternEngine] {s : Settings} {v : FormatVersion} {ms : List Manifest}

theorem verdict_unresolved_iff {name : String} : verdict s ms name = .unresolved ↔
    TypePool.classFile s.source.skipPrefixes name = none := by
  rw [verdict]
  split
  · simp_all
  · split <;> simp_all

theorem PlannedEntry.type_eq {x y : LedgerEntry} {a : Artifact} (h : PlannedEntry s v ms x y)
    (done : y.disposition = .replaced a) :
    TypePool.classFile s.source.skipPrefixes x.name = some a.type := by
  cases h with
  | unresolved | ignored => cases done
  | planned resolved member wanted type =>
    cases done
    rw [resolved, type]

variable (s v ms) (ledger : Ledger)

theorem lines_untyped :
    (ledger.names.map (lineOf s)).countP (·.type?.isNone) =
      (settleAll s v ms ledger).report.unresolved := by
  have counted : (settleAll s v ms ledger).report.unresolved = _ :=
    (settled_archive s v ms ledger).counted .unresolved
  rw [counted, Ledger.names, List.map_map, List.countP_map]
  refine List.countP_congr fun x _ => ?_
  simp [lineOf, verdict_unresolved_iff]

theorem lines_all :
    (ledger.names.map (lineOf s)).countP (·.type?.isSome) +
        (ledger.names.map (lineOf s)).countP (·.type?.isNone) =
      (settleAll s v ms ledger).report.total := by
  rw [countP_given ScanLine.type?, settleAll_report, Report.total_ofOutcomes, List.length_map,
    List.length_map]

theorem lines_agree :
    ScanAgrees (ledger.names.map (lineOf s)) (settleAll s v ms ledger) := by
  have untyped := lines_untyped s v ms ledger
  have all := lines_all s v ms ledger
  rw [Report.total] at all
  refine ⟨?_, by omega, untyped, ?_⟩
  · rw [settleAll_names, List.map_map]
    exact List.map_id ledger.names
  · rw [settleAll, Ledger.names, List.map_map, List.forall₂_map_left_iff,
      List.forall₂_map_right_iff, List.forall₂_same]
    exact fun x _ a done => (settle_planned s v ms x).type_eq done

end

/-- Of an archive that can be planned, a scan tells the types that the plans are for. -/
theorem scan_agrees_with_plan [PatternEngine] {read : FileReader} {s : Settings} {archive : String}
    {selected : List String} {res : Result} (planned : plan read s archive selected = .ok res) :
    ∃ lines, scan read s archive = .ok lines ∧ ScanAgrees lines res := by
  obtain ⟨e, ledger, -, opened, -, rfl⟩ := plan_settles planned
  exact ⟨ledger.names.map (lineOf s), scan_lines opened, lines_agree s _ _ ledger⟩

open scoped Pattern

theorem scan_agrees_with_plan_small :
    ∃ res lines, plan smallArchive tracedAndAudited "app.tar" ["audit"] = .ok res ∧
      scan smallArchive tracedAndAudited "app.tar" = .ok lines ∧ ScanAgrees lines res := by
  have done : (plan smallArchive tracedAndAudited "app.tar" ["audit"]).isOk = true := by
    decide +kernel
  cases planned : plan smallArchive tracedAndAudited "app.tar" ["audit"] with
  | error err => simp [planned, Except.isOk, Except.toBool] at done
  | ok res =>
    obtain ⟨lines, scanned, agrees⟩ := scan_agrees_with_plan planned
    exact ⟨res, lines, rfl, scanned, agrees⟩

end Planning
end ClassForge
