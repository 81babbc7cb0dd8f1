import ClassForge.Proofs.Trace

/-!
What summaries hold. A summary counts the outcomes that it hears and makes a record of each failure.
One that occurs several times in an audience, at whatever depth, hears everything as often.
-/
namespace ClassForge
variable {B κ : Type}

namespace Audience
variable [DecidableEq κ] (k : κ)

mutual

def occurrences : Audience κ → Nat
  | .one other => if other = k then 1 else 0
  | .group members => occurrencesInAll members

def occurrencesInAll : List (Audience κ) → Nat
  | [] => 0
  | a :: as => occurrences a + occurrencesInAll as

end

mutual

theorem count_reached : ∀ a : Audience κ, a.reached.count k = a.occurrences k
  | .one other => by
    rw [reached, occurrences, List.count_singleton]
    simp
  | .group members => by
    rw [reached, occurrences]
    exact count_reachedByAll members

theorem count_reachedByAll :
    ∀ as : List (Audience κ), (reachedByAll as).count k = occurrencesInAll k as
  | [] => rfl
  | a :: as => by
    rw [reachedByAll, occurrencesInAll, List.count_append, count_reached a, count_reachedByAll as]

end

/-- Each notification comes as often in a row as the listener occurs. -/
theorem heard_repeated (a : Audience κ) (ns : List Notification) :
    a.heard k ns = ns.flatMap (List.replicate (a.occurrences k)) := by
  have once : ∀ n : Notification, (a.reached.filter (· == k)).map (fun _ => n) =
      List.replicate (a.occurrences k) n := by
    intro n
    rw [List.map_const', ← List.countP_eq_length_filter, ← count_reached]
    rfl
  rw [heard, funext once]

end Audience

section
variable {α β : Type} (m : Nat)

theorem filterMap_repeated (f : α → Option β) (xs : List α) :
    (xs.flatMap (List.replicate m)).filterMap f = (xs.filterMap f).flatMap (List.replicate m) := by
  induction xs with
  | nil => rfl
  | cons x xs ih =>
    rw [List.flatMap_cons, List.filterMap_append, ih]
    cases found : f x with
    | none =>
      rw [List.filterMap_replicate_of_none found, List.filterMap_cons_none found]
      rfl
    | some y =>
      rw [List.filterMap_replicate_of_some found, List.filterMap_cons_some found]
      rfl

theorem count_repeated [DecidableEq α] (x : α) (xs : List α) :
    (xs.flatMap (List.replicate m)).count x = m * xs.count x := by
  induction xs with
  | nil => rfl
  | cons y ys ih =>
    rw [List.flatMap_cons, List.count_append, ih, List.count_replicate, List.count_cons]
    split <;> simp_all [Nat.mul_add, Nat.add_comm]

theorem countP_given (f : α → Option β) (xs : List α) :
    xs.countP (fun x => (f x).isSome) + xs.countP (fun x => (f x).isNone) = xs.length := by
  rw [List.length_eq_countP_add_countP fun x => (f x).isSome]
  refine congrArg _ (List.countP_congr fun x _ => ?_)
  simp

end

namespace Report

theorem count_foldl (os : List Outcome) (r : Report) (o : Outcome) :
    (os.foldl record r).count o = r.count o + os.count o := by
  induction os generalizing r with
  | nil => rfl
  | cons first os ih =>
    rw [List.foldl_cons, ih, List.count_cons]
    cases first <;> cases o <;> simp [record, count] <;> omega

theorem count_ofOutcomes (os : List Outcome) (o : Outcome) :
    (ofOutcomes os).count o = os.count o := by
  rw [ofOutcomes, count_foldl]
  cases o <;> exact Nat.zero_add _

theorem total_foldl (os : List Outcome) (r : Report) :
    (os.foldl record r).total = r.total + os.length := by
  induction os generalizing r with
  | nil => rfl
  | cons o os ih =>
    rw [List.foldl_cons, ih, List.length_cons]
    cases o <;> simp only [record, total] <;> omega

theorem total_ofOutcomes (os : List Outcome) : (ofOutcomes os).total = os.length := by
  rw [ofOutcomes, total_foldl]
  exact Nat.zero_add _

theorem ext_count {r r' : Report} (same : ∀ o, r.count o = r'.count o) : r = r' := by
  cases r
  cases r'
  simp only [mk.injEq]
  exact ⟨same .success, same .ignored, same .failed, same .unresolved⟩

end Report

def Notification.record? : Notification → Option FailureRecord
  | .pluginFailure t f => some ⟨t.name, f⟩
  | _ => none

namespace Summary

theorem foldl_hear (ns : List Notification) (s : Summary) :
    ns.foldl hear s = ⟨(ns.filterMap Notification.outcome?).foldl Report.record s.report,
      s.failures ++ ns.filterMap Notification.record?⟩ := by
  induction ns generalizing s with
  | nil => simp
  | cons n ns ih =>
    rw [List.foldl_cons, ih]
    cases n <;>
      simp [hear, List.filterMap_cons, Notification.outcome?, Notification.record?]

theorem ofNotifications_eq (ns : List Notification) :
    ofNotifications ns =
      ⟨.ofOutcomes (ns.filterMap Notification.outcome?), ns.filterMap Notification.record?⟩ := by
  rw [ofNotifications, foldl_hear]
  rfl

end Summary

theorem notifications_outcomes (events : List (Event B)) :
    (notifications events).filterMap Notification.outcome? = outcomes events := by
  have same : (fun ev : Event B => ev.notification?.bind Notification.outcome?) =
      Event.outcome? := by
    funext ev
    cases ev <;> rfl
  rw [notifications, List.filterMap_filterMap, same]

theorem notifications_records (events : List (Event B)) :
    (notifications events).filterMap Notification.record? =
      (pluginFailures events).map fun (t, f) => ⟨t.name, f⟩ := by
  have same : (fun ev : Event B => ev.notification?.bind Notification.record?) =
      fun ev => ev.pluginFailure?.map fun (t, f) => ⟨t.name, f⟩ := by
    funext ev
    cases ev with
    | notified n => cases n <;> rfl
    | _ => rfl
  rw [notifications, List.filterMap_filterMap, same, List.map_filterMap]

theorem summary_unfailed {events : List (Event B)} (quiet : pluginFailures events = []) :
    (Summary.ofNotifications (notifications events)).failures = [] := by
  rw [Summary.ofNotifications_eq, notifications_records, quiet]
  rfl

end ClassForge
