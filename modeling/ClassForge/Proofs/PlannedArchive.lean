import ClassForge.Pattern.Engine
import ClassForge.Proofs.PlannedTypes
import ClassForge.Proofs.RunCourse
import ClassForge.Proofs.Summaries

/-!
Planning of an archive. Entry by entry, the ledger shows what the chosen manifests say of the type
that the entry holds; only a live plugin can end the run, where the settings do not allow it.
-/
namespace ClassForge
open List (Forall₂)
variable {σ B : Type}

theorem Ledger.set_next (done todo : Ledger) (x : LedgerEntry) (d : Disposition) :
    Ledger.set done.length d (done ++ x :: todo) =
      done ++ [{ x with disposition := d }] ++ todo := by
  induction done with
  | nil => rfl
  | cons first done ih => exact congrArg (first :: ·) ih

/-- The items of the entries from a place on. -/
def Source.placesFrom (i : Nat) (todo : Ledger) : List (Except RunError Source.Place) :=
  (todo.zipIdx i).map fun (x, j) => .ok ⟨j, x.name⟩

theorem Source.ofLedger_pending (ledger : Ledger) :
    (Source.ofLedger ledger).pending = .ofList (Source.placesFrom 0 ledger) := by
  refine congrArg Supply.ofList ?_
  simp [Source.places, Source.placesFrom, Ledger.names, List.zipIdx_map]

theorem Source.placesFrom_cons (i : Nat) (x : LedgerEntry) (todo : Ledger) :
    Source.placesFrom i (x :: todo) = .ok ⟨i, x.name⟩ :: Source.placesFrom (i + 1) todo := by
  rw [Source.placesFrom, List.zipIdx_cons, List.map_cons, Source.placesFrom]

namespace Planning

section
variable [PatternEngine]

def settle (s : Settings) (v : FormatVersion) (ms : List Manifest) (x : LedgerEntry) :
    LedgerEntry :=
  { x with disposition := fate s v ms x.name }

/-- What planning a ledger comes to when no entry is blocked. -/
def settleAll (s : Settings) (v : FormatVersion) (ms : List Manifest) (ledger : Ledger) :
    Result where
  report := .ofOutcomes (ledger.map fun x => verdict s ms x.name)
  failures := []
  ledger := ledger.map (settle s v ms)

section
variable (s : Settings) (v : FormatVersion) (ms : List Manifest)

theorem settleAll_names (ledger : Ledger) :
    (settleAll s v ms ledger).ledger.names = ledger.names := by
  simp [settleAll, Ledger.names, settle, Function.comp_def]

theorem settleAll_report (ledger : Ledger) :
    (settleAll s v ms ledger).report = .ofOutcomes (ledger.names.map (verdict s ms)) := by
  simp [settleAll, Ledger.names, Function.comp_def]

theorem settleAll_dispositions (ledger : Ledger) :
    (settleAll s v ms ledger).ledger.map (·.disposition) = ledger.names.map (fate s v ms) := by
  simp [settleAll, Ledger.names, settle, Function.comp_def]

end

inductive Covers (s : Settings) (v : FormatVersion) (ms : List Manifest) (done todo : Ledger)
    (report : Report) : Except RunError Report → Ledger → Prop where
  | blocked (t d : String) (left : Ledger) (live : ∃ x ∈ todo, Blocked s ms x.name) :
      Covers s v ms done todo report (.error (.liveInitializer t d)) left
  | settled (free : ∀ x ∈ todo, ¬Blocked s ms x.name) :
      Covers s v ms done todo report
        (.ok ((todo.map fun x => verdict s ms x.name).foldl Report.record report))
        (done ++ todo.map (settle s v ms))

theorem covers_cons {s : Settings} {v : FormatVersion} {ms : List Manifest}
    {done todo left : Ledger} {report : Report} {x : LedgerEntry} {result : Except RunError Report}
    (free : ¬Blocked s ms x.name)
    (h : Covers s v ms (done ++ [settle s v ms x]) todo (report.record (verdict s ms x.name))
      result left) : Covers s v ms done (x :: todo) report result left := by
  cases h with
  | blocked t d left live =>
    obtain ⟨y, member, blocked⟩ := live
    exact .blocked t d left ⟨y, List.mem_cons_of_mem x member, blocked⟩
  | settled freeLater =>
    rw [List.append_assoc]
    exact .settled (List.forall_mem_cons.mpr ⟨free, freeLater⟩)

theorem processAll_covers {s : Settings} {ms : List Manifest}
    {e : Engine (Unit × TypePool.Cache) σ PlanBuilder} (plans : Plans s ms e) (done todo : Ledger)
    (report : Report) {cache : TypePool.Cache}
    (remembers : TypePool.Remembers (TypePool.classFile s.source.skipPrefixes) cache) (world : σ) :
    let ran := e.processAll Source.inArchive (.ofList (Source.placesFrom done.length todo)) report
      ((), cache) world (done ++ todo)
    Covers s e.version ms done todo report ran.result ran.store ∧
      pluginFailures ran.events = [] := by
  -- The entries dealt with stay in front, so that the next place is always their number.
  induction todo generalizing done report cache world with
  | nil =>
    have free : ∀ x ∈ ([] : Ledger), ¬Blocked s ms x.name := by simp
    exact ⟨.settled free, rfl⟩
  | cons x todo ih =>
    obtain ⟨comes, remembers', quiet⟩ :=
      process_comes plans ⟨done.length, x.name⟩ remembers world (done ++ x :: todo)
    have drawn := Supply.draw_ofList_cons (.ok ⟨done.length, x.name⟩)
      (Source.placesFrom (done.length + 1) todo) (done ++ x :: todo)
    rw [Source.placesFrom_cons]
    rcases dealt : e.process Source.inArchive ⟨done.length, x.name⟩ ((), cache) world
      (done ++ x :: todo) with ⟨result, events, ⟨⟨⟩, cache'⟩, world', left⟩
    rw [dealt] at comes remembers' quiet
    cases comes with
    | blocked t d left live =>
      rw [processAll_of_givenUp report drawn dealt]
      exact ⟨.blocked t d left ⟨x, List.mem_cons_self, live⟩, quiet⟩
    | settled free stored =>
      have next : left = done ++ [settle s e.version ms x] ++ todo :=
        stored.trans (Ledger.set_next done todo x _)
      rw [processAll_of_settled report drawn dealt, next]
      obtain ⟨covers, quietLater⟩ := ih (done ++ [settle s e.version ms x])
        (report.record (verdict s ms x.name)) remembers' world'
      rw [List.length_append] at covers quietLater
      refine ⟨covers_cons free covers, ?_⟩
      simp only [List.cons_append, List.filterMap_cons, List.filterMap_append, quiet]
      exact quietLater

theorem runOver_covers {s : Settings} {ms : List Manifest}
    {e : Engine (Unit × TypePool.Cache) Unit PlanBuilder} (plans : Plans s ms e) (ledger : Ledger) :
    (∃ x ∈ ledger, Blocked s ms x.name) ∧
        (∃ t d, runOver e ledger = .error (.liveInitializer t d)) ∨
      (∀ x ∈ ledger, ¬Blocked s ms x.name) ∧
        runOver e ledger = .ok (settleAll s e.version ms ledger) := by
  have remembers : TypePool.Remembers (TypePool.classFile s.source.skipPrefixes) [] := by
    simp [TypePool.Remembers]
  obtain ⟨covers, quiet⟩ := processAll_covers plans [] ledger {} remembers ()
  rw [List.length_nil, ← Source.ofLedger_pending] at covers quiet
  have ran := run_eq_close e (Source.ofLedger ledger) ((), []) ()
  rcases processed : e.processing (Source.ofLedger ledger) ((), []) () with
    ⟨result, events, pool, world, left⟩
  have whole : e.processAll Source.inArchive (Source.ofLedger ledger).pending {} ((), []) ()
    ledger = ⟨result, events, pool, world, left⟩ := processed
  rw [List.nil_append, whole] at covers quiet
  rw [processed] at ran
  cases covers with
  | blocked t d left live =>
    refine Or.inl ⟨live, t, d, ?_⟩
    rw [runOver, ran]
    rfl
  | settled free =>
    refine Or.inr ⟨free, ?_⟩
    have heard : (Summary.ofNotifications (notifications (events ++ [.closed]))).failures = [] := by
      refine summary_unfailed ?_
      simp only [List.filterMap_append, quiet]
      rfl
    rw [runOver, ran, Ran.close]
    simp only [closingResult, heard]
    rfl

inductive PlannedEntry (s : Settings) (v : FormatVersion) (ms : List Manifest) (x : LedgerEntry) :
    LedgerEntry → Prop where
  | unresolved (unresolved : TypePool.classFile s.source.skipPrefixes x.name = none) :
      PlannedEntry s v ms x { x with disposition := .retained }
  | ignored {t : TypeName} (resolved : TypePool.classFile s.source.skipPrefixes x.name = some t)
      (unwanted : ∀ m ∈ ms, m.isFor t = false) :
      PlannedEntry s v ms x { x with disposition := .retained }
  | planned {t : TypeName} {m : Manifest} {a : Artifact}
      (resolved : TypePool.classFile s.source.skipPrefixes x.name = some t) (member : m ∈ ms)
      (wanted : m.isFor t = true) (type : a.type = t)
      (bytes : a.bytes = Text.Utf8.encode (Json.render (planFor s v ms t).toJson)) :
      PlannedEntry s v ms x { x with disposition := .replaced a }

theorem settle_planned (s : Settings) (v : FormatVersion) (ms : List Manifest) (x : LedgerEntry) :
    PlannedEntry s v ms x (settle s v ms x) := by
  unfold settle
  cases resolved : TypePool.classFile s.source.skipPrefixes x.name with
  | none =>
    simp only [fate, resolved]
    exact .unresolved resolved
  | some t =>
    cases chosen : ms.any (·.isFor t) with
    | false =>
      simp only [fate, resolved, chosen]
      refine .ignored resolved ?_
      intro m member
      simpa using List.any_eq_false.mp chosen m member
    | true =>
      obtain ⟨m, member, wanted⟩ := List.any_eq_true.mp chosen
      simp only [fate, resolved, chosen]
      refine .planned resolved member wanted ?_ ?_
      · rw [PlanBuilder.artifact_type, builderFor_target]
      · rw [PlanBuilder.artifact_bytes, builderFor_plan]

structure ArchivePlanned (s : Settings) (v : FormatVersion) (ms : List Manifest) (ledger : Ledger)
    (res : Result) : Prop where
  entries : Forall₂ (PlannedEntry s v ms) ledger res.ledger
  counted : ∀ o, res.report.count o = ledger.countP fun x => verdict s ms x.name = o
  unfailed : res.report.failed = 0
  unheard : res.failures = []

theorem verdict_ne_failed (s : Settings) (ms : List Manifest) (name : String) :
    verdict s ms name ≠ .failed := by
  unfold verdict
  split
  · simp
  · split <;> simp

theorem settled_archive (s : Settings) (v : FormatVersion) (ms : List Manifest) (ledger : Ledger) :
    ArchivePlanned s v ms ledger (settleAll s v ms ledger) := by
  have counted : ∀ o, (Report.ofOutcomes (ledger.map fun x => verdict s ms x.name)).count o =
      ledger.countP fun x => verdict s ms x.name = o := by
    intro o
    rw [Report.count_ofOutcomes, List.count, List.countP_map]
    simp [Function.comp_def, beq_eq_decide]
  have unfailed : (ledger.countP fun x => verdict s ms x.name = .failed) = 0 :=
    List.countP_eq_zero.mpr (by simp [verdict_ne_failed])
  refine ⟨?_, counted, (counted .failed).trans unfailed, rfl⟩
  rw [settleAll, List.forall₂_map_right_iff, List.forall₂_same]
  exact fun x _ => settle_planned s v ms x

def manifests (read : FileReader) (s : Settings) (selected : List String) : List Manifest :=
  ((registry read s : Registry Unit PlanBuilder).chosen selected).map (·.manifest)

section
variable {read : FileReader} {s : Settings} {archive : String} {selected : List String}

theorem plan_covers {e : Engine (Unit × TypePool.Cache) Unit PlanBuilder} {ledger : Ledger}
    (built : engine s (registry read s) selected = .ok e)
    (opened : openArchive read archive = .ok ledger) :
    let ms := manifests read s selected
    (∃ x ∈ ledger, Blocked s ms x.name) ∧
        (∃ t d, plan read s archive selected = .error (.liveInitializer t d)) ∨
      (∀ x ∈ ledger, ¬Blocked s ms x.name) ∧
        plan read s archive selected = .ok (settleAll s e.version ms ledger) := by
  have ran : plan read s archive selected = runOver e ledger := by
    rw [plan, built, opened]
    rfl
  rw [ran]
  exact runOver_covers (engine_plans (fun _ => registered_factory) built) ledger

/-- An archive that can be planned is one whose entries are all settled by their names. -/
theorem plan_settles {res : Result} (planned : plan read s archive selected = .ok res) :
    ∃ (e : Engine (Unit × TypePool.Cache) Unit PlanBuilder) (ledger : Ledger),
      engine s (registry read s) selected = .ok e ∧
      openArchive read archive = .ok ledger ∧
      (∀ x ∈ ledger, ¬Blocked s (manifests read s selected) x.name) ∧
      res = settleAll s e.version (manifests read s selected) ledger := by
  obtain ⟨e, built, onward⟩ := bind_succeeds planned
  obtain ⟨ledger, opened, -⟩ := bind_succeeds onward
  obtain ⟨-, t, d, stopped⟩ | ⟨free, settled⟩ := plan_covers built opened
  · simp [stopped] at planned
  · exact ⟨e, ledger, built, opened, free, Except.ok.inj (planned.symm.trans settled)⟩

end

/-- An archive is planned entry by entry, and only live plugins can prevent it. -/
theorem archive_planned (read : FileReader) (s : Settings) (archive : String)
    (selected : List String) (e : Engine (Unit × TypePool.Cache) Unit PlanBuilder)
    (ledger : Ledger) (built : engine s (registry read s) selected = .ok e)
    (opened : openArchive read archive = .ok ledger) :
    let ms := ((registry read s : Registry Unit PlanBuilder).chosen selected).map (·.manifest)
    (∀ res, plan read s archive selected = .ok res → ArchivePlanned s e.version ms ledger res) ∧
      ((∃ t d, plan read s archive selected = .error (.liveInitializer t d)) ↔
        ∃ x ∈ ledger, Blocked s ms x.name) ∧
      ((∃ res, plan read s archive selected = .ok res) ↔ ∀ x ∈ ledger, ¬Blocked s ms x.name) := by
  intro ms
  obtain ⟨⟨x, member, blocked⟩, t, d, stopped⟩ | ⟨free, settled⟩ := plan_covers built opened
  · rw [stopped]
    refine ⟨by simp, ?_, ?_⟩
    · exact iff_of_true ⟨t, d, rfl⟩ ⟨x, member, blocked⟩
    · exact iff_of_false (by simp) fun free => free x member blocked
  · rw [settled]
    refine ⟨?_, ?_, ?_⟩
    · intro res same
      obtain rfl := Except.ok.inj same
      exact settled_archive s e.version ms ledger
    · exact iff_of_false (by simp) fun ⟨x, member, blocked⟩ => free x member blocked
    · exact iff_of_true ⟨_, rfl⟩ free

end

open scoped Pattern

def tracePlugin : PluginDeclaration :=
  { name := "trace", selector := .named "app.Main", live := true }

def auditPlugin : PluginDeclaration := { name := "audit", selector := .startsWith "app." }

def tracedAndAudited : Settings := { plugins := [tracePlugin, auditPlugin] }

def smallArchive : FileReader := fun _ =>
  .ok (Tar.write [("app/Main.class", [1]), ("README", [])]).bytes

/-- One of two plugins is live. Selecting the other one plans the archive; both together cannot. -/
theorem archive_planned_by_selection :
    let ledger : Ledger := [⟨"app/Main.class", [1], .pending⟩, ⟨"README", [], .pending⟩]
    openArchive smallArchive "app.tar" = .ok ledger ∧
      (∃ (e : Engine (Unit × TypePool.Cache) Unit PlanBuilder) (res : Result),
        engine tracedAndAudited (registry smallArchive tracedAndAudited) ["audit"] = .ok e ∧
        plan smallArchive tracedAndAudited "app.tar" ["audit"] = .ok res ∧
        ArchivePlanned tracedAndAudited e.version [.ofDeclaration auditPlugin] ledger res) ∧
      ∃ t d, plan smallArchive tracedAndAudited "app.tar" [] = .error (.liveInitializer t d) := by
  intro ledger
  have opened : openArchive smallArchive "app.tar" = .ok ledger := by decide +kernel
  let r : Registry Unit PlanBuilder := registry smallArchive tracedAndAudited
  obtain ⟨e, built⟩ : ∃ e, engine tracedAndAudited r ["audit"] = .ok e := ⟨_, rfl⟩
  obtain ⟨both, builtBoth⟩ : ∃ e, engine tracedAndAudited r [] = .ok e := ⟨_, rfl⟩
  obtain ⟨planned, _, free⟩ :=
    archive_planned smallArchive tracedAndAudited "app.tar" ["audit"] e ledger built opened
  obtain ⟨_, refused, _⟩ :=
    archive_planned smallArchive tracedAndAudited "app.tar" [] both ledger builtBoth opened
  have dormant : ∀ x ∈ ledger,
      ¬Blocked tracedAndAudited [.ofDeclaration auditPlugin] x.name := by
    rintro x _ ⟨_, t, _, m, member, live, _⟩
    obtain rfl := List.mem_singleton.mp member
    exact absurd live (by decide)
  obtain ⟨res, done⟩ := free.mpr dormant
  refine ⟨opened, ⟨e, res, built, done, planned res done⟩, refused.mpr ?_⟩
  exact ⟨_, List.mem_cons_self, rfl, ⟨"app.Main"⟩, by decide +kernel, .ofDeclaration tracePlugin,
    List.mem_cons_self, rfl, rfl⟩

end Planning
end ClassForge
