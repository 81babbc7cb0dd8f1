import ClassForge.Proofs.NotificationBlocks
import ClassForge.Proofs.Summaries

/-!
Agreement of a summary with the run it hears of. The run counts the elements that it settles, the
summary what it is told; in however many places of an audience a summary stands, the two counts
differ by that factor only. This also holds of runs that give no report.
-/
namespace ClassForge
variable {ρ σ B S E κ : Type}

def replacedCount (events : List (Event B)) : Nat := (disposals events).countP (·.2.isSome)

def retainedCount (events : List (Event B)) : Nat := (disposals events).countP (·.2.isNone)

/-- What a summary lists of a failure: the type, the plugin if it is known, and the text. -/
def FailureRecord.shown (r : FailureRecord) : String × Option String × String :=
  (r.target, r.failure.plugin?, r.failure.message)

/-- A summary against the run that it heard of, `m` times over. -/
structure SummaryAgrees (m : Nat) (ran : Ran ρ σ B S (Except RunError Report)) (s : Summary) :
    Prop where
  replaced : s.report.transformed = m * replacedCount ran.events
  retained : s.report.ignored + s.report.failed + s.report.unresolved = m * retainedCount ran.events
  /-- Each failure is listed as often in a row as it is heard. -/
  listed : s.failures.map FailureRecord.shown =
    (pluginFailures ran.events).flatMap fun (t, f) =>
      List.replicate m (t.name, f.plugin?, f.message)
  counted : ∀ report, ran.result = .ok report → ∀ o, s.report.count o = m * report.count o
  single : m = 1 → ∀ report, ran.result = .ok report →
    s.report = report ∧ (s.failures = [] ↔ report.failed = 0) ∧ report.failed ≤ s.failures.length

section
variable [DecidableEq κ] (a : Audience κ) (k : κ) (events : List (Event B))

theorem heard_count (o : Outcome) :
    (Summary.ofNotifications (a.heard k (notifications events))).report.count o =
      a.occurrences k * (outcomes events).count o := by
  rw [Summary.ofNotifications_eq, a.heard_repeated, filterMap_repeated, notifications_outcomes,
    Report.count_ofOutcomes, count_repeated]

theorem heard_failures :
    (Summary.ofNotifications (a.heard k (notifications events))).failures =
      ((notifications events).filterMap Notification.record?).flatMap
        (List.replicate (a.occurrences k)) := by
  simp only [Summary.ofNotifications_eq, a.heard_repeated, filterMap_repeated]

theorem heard_listed :
    (Summary.ofNotifications (a.heard k (notifications events))).failures.map FailureRecord.shown =
      (pluginFailures events).flatMap fun (t, f) =>
        List.replicate (a.occurrences k) (t.name, f.plugin?, f.message) := by
  rw [heard_failures, notifications_records, List.flatMap_map, List.map_flatMap]
  refine congrArg (List.flatMap · _) (funext fun (t, f) => ?_)
  exact List.map_replicate

end

section
variable {c : Container S E} {visits : List (Visit E B)}

theorem tally_count (o : Outcome) :
    (tally visits).count o = (visits.map Visit.outcome).count o := by
  rw [List.count, List.countP_map]
  cases o <;> simp [tally, Report.count, Function.comp_def, beq_eq_decide]

theorem settled_replaced {v : Visit E B} (h : v.Settled c) :
    v.artifact?.isSome = decide (v.outcome = .success) := by
  obtain ⟨before, last, -, -, settles⟩ := h
  cases settled : v.outcome <;> rw [settled] at settles <;> generalize v.artifact? = a? at settles
  all_goals
    cases settles
    rfl

theorem Accounted.replacedCount_eq {source : Source S E}
    {ran : Ran ρ σ B S (Except RunError Report)} (h : Accounted source ran visits) :
    replacedCount ran.events = (tally visits).transformed := by
  rw [replacedCount, h.disposals_eq, List.countP_map, tally]
  refine List.countP_congr ?_
  intro v member
  simp [settled_replaced (h.settled v member)]

theorem Accounted.retainedCount_eq {source : Source S E}
    {ran : Ran ρ σ B S (Except RunError Report)} (h : Accounted source ran visits) :
    retainedCount ran.events =
      (tally visits).ignored + (tally visits).failed + (tally visits).unresolved := by
  have all := countP_given (fun d : String × Option Artifact => d.2) (disposals ran.events)
  have replaced := h.replacedCount_eq
  have total := h.total_eq
  rw [h.disposals_eq, List.length_map, ← h.disposals_eq] at all
  rw [replacedCount] at replaced
  rw [Report.total] at total
  rw [retainedCount]
  omega

theorem block_records {policy : FailurePolicy} {name : String} {type? : Option TypeName}
    {o : Outcome} {heard : List Notification} (h : Block policy name type? o heard) :
    heard.filterMap Notification.record? = [] ↔ o ≠ .failed := by
  cases h with
  | failed t f fs => simp [Notification.record?]
  | _ => simp [Notification.record?]

def Visit.records (v : Visit E B) : List FailureRecord :=
  (notifications v.events).filterMap Notification.record?

theorem unfailed_iff (told : ∀ v ∈ visits, v.records = [] ↔ v.outcome ≠ .failed) :
    visits.flatMap Visit.records = [] ↔ (tally visits).failed = 0 := by
  rw [List.flatMap_eq_nil_iff, tally, List.countP_eq_zero]
  simpa using forall₂_congr told

theorem failed_le_records (told : ∀ v ∈ visits, v.records = [] ↔ v.outcome ≠ .failed) :
    (tally visits).failed ≤ (visits.flatMap Visit.records).length := by
  induction visits with
  | nil => exact Nat.le_refl 0
  | cons v visits ih =>
    obtain ⟨first, later⟩ := List.forall_mem_cons.mp told
    have bound := ih later
    simp only [tally] at bound
    simp only [tally, List.countP_cons, List.flatMap_cons, List.length_append, decide_eq_true_eq]
    -- A failed element adds at least one record, and another one adds none or more.
    split
    · rename_i failed
      have some : 0 < v.records.length := List.length_pos_iff.mpr fun none => first.mp none failed
      omega
    · omega

theorem blocks_records {e : Engine ρ σ B} {pool : ρ} (h : Blocks e c visits pool) :
    ∀ v ∈ visits, v.records = [] ↔ v.outcome ≠ .failed := by
  intro v member
  obtain ⟨type?, block⟩ := blocks_of_mem h member
  exact block_records block

end

theorem halt_reports [Builder B] {e : Engine ρ σ B} {c : Container S E} {s : Supply S E}
    {p : Position ρ σ S} {report report' : Report} {last : Ran ρ σ B S (Except RunError Report)}
    {closing : Except RunError Unit} (h : Halt e c s p report last)
    (done : closingResult last.result closing = .ok report') :
    report' = report ∧ notifications last.events = [] := by
  cases h with
  | exhausted =>
    cases closing with
    | error err => simp [closingResult] at done
    | ok u => exact ⟨(Except.ok.inj done).symm, rfl⟩
  | unreadable drawn => simp [closingResult] at done
  | givenUp drawn dealt => simp [closingResult] at done

/-- Whatever becomes of a run, a summary that listens to it agrees with it. -/
theorem summary_agrees_with_run [DecidableEq κ] [Builder B] (e : Engine ρ σ B) (source : Source S E)
    (pool : ρ) (world : σ) (a : Audience κ) (k : κ) :
    let ran := e.run source pool world
    SummaryAgrees (a.occurrences k) ran
      (.ofNotifications (a.heard k (notifications ran.events))) := by
  intro ran
  obtain ⟨visits, q, left, last, course, halt, shape⟩ := run_course e source pool world
  have books : Accounted source ran visits := by
    rw [show ran = _ from shape]
    exact course_accounted course halt
  have counts : ∀ o,
      (Summary.ofNotifications (a.heard k (notifications ran.events))).report.count o =
        a.occurrences k * (tally visits).count o := by
    intro o
    rw [heard_count, books.outcomes_eq, tally_count]
  have reports : ∀ report, ran.result = .ok report →
      report = tally visits ∧ notifications last.events = [] := by
    intro report done
    rw [show ran = _ from shape] at done
    exact halt_reports halt done
  refine ⟨?_, ?_, heard_listed a k ran.events, ?_, ?_⟩
  · rw [books.replacedCount_eq]
    exact counts .success
  · rw [books.retainedCount_eq, Nat.mul_add, Nat.mul_add]
    exact congrArg₂ _ (congrArg₂ _ (counts .ignored) (counts .failed)) (counts .unresolved)
  · intro report done o
    rw [(reports report done).1]
    exact counts o
  · intro one report done
    -- The run came to its end, so that nothing is heard but the blocks of its visits.
    obtain ⟨rfl, silent⟩ := reports report done
    have told := blocks_records (course_blocks course)
    have heard : notifications ran.events =
        visits.flatMap fun v => notifications v.events := by
      rw [show ran = _ from shape, close_notifications, silent, List.append_nil]
    have failures : (Summary.ofNotifications (a.heard k (notifications ran.events))).failures =
        visits.flatMap Visit.records := by
      rw [heard_failures, one, heard, List.filterMap_flatMap]
      exact List.flatMap_singleton' _
    rw [failures]
    refine ⟨Report.ext_count fun o => ?_, unfailed_iff told, failed_le_records told⟩
    rw [counts, one, Nat.one_mul]

end ClassForge
