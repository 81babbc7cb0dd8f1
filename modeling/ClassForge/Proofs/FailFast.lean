import ClassForge.Proofs.RunAccounting

/-!
Failing fast and going on are one run up to the first plugin failure. Every call before it is the
same under both policies, so nothing is asked of the plugins here: they may keep what they like
between calls. At the failure the fast run stops, and leaves the store as the elements before have
left it.
-/
namespace ClassForge
variable {ρ σ B S E : Type}

def announced (notify : Bool) (t : TypeName) (f : PluginFailure) : List (Event B) :=
  if notify then [.notified (.pluginFailure t f)] else []

theorem announced_disposals (notify : Bool) (t : TypeName) (f : PluginFailure) :
    disposals (announced notify t f : List (Event B)) = [] := by
  cases notify <;> rfl

theorem announced_notifications (notify : Bool) (t : TypeName) (f : PluginFailure) :
    notifications (announced notify t f : List (Event B)) =
      if notify then [.pluginFailure t f] else [] := by
  cases notify <;> rfl

namespace Engine

def withPolicy (e : Engine ρ σ B) (policy : FailurePolicy) : Engine ρ σ B :=
  { e with failurePolicy := policy }

variable [Builder B]

/-- Two runs of one element part at the first plugin failure: one goes on, the other one stops. -/
structure Parted (notify : Bool) (store : S) (slow fast : Ran ρ σ B S (Except RunError Outcome))
    (t : TypeName) (f : PluginFailure) (before after : List (Event B)) : Prop where
  slowEvents : slow.events = before ++ .notified (.pluginFailure t f) :: after
  opened : AllOpen before
  quiet : pluginFailures before = []
  result : fast.result = .error (.plugin t.name f)
  events : fast.events = before ++ announced notify t f
  store : fast.store = store

section
variable {e : Engine ρ σ B} {c : Container S E} {x : E} (notify : Bool) {pool pool' : ρ}
  {world world' : σ} (store : S) {t : TypeName} {consulted : Bool} {b : B}
  (resolved : e.pool.describe (c.name x) pool = (⟨some t, consulted⟩, pool'))
  (seeded : e.entryPoint t e.version e.locator world = (.ok b, world'))
include resolved seeded

theorem policies_alike_of_fine
    (fine : ∀ u ∈ turns t e.locator e.plugins b world', u.failure? t e.locator = none) :
    let slow := (e.withPolicy .proceed).process c x pool world store
    pluginFailures slow.events = [] ∧
      (e.withPolicy (.failFast notify)).process c x pool world store = slow := by
  intro slow
  have slowRan : slow = _ := process_of_folded resolved seeded
    (applyPlugins_of_fine t e.locator 0 .proceed e.plugins ⟨b, false, false⟩ world' fine)
  have fastRan : (e.withPolicy (.failFast notify)).process c x pool world store = _ :=
    process_of_folded resolved seeded (applyPlugins_of_fine t e.locator 0 (.failFast notify)
      e.plugins ⟨b, false, false⟩ world' fine)
  have quietTurns : (turns t e.locator e.plugins b world').filterMap (Turn.failure? t e.locator) =
    [] := List.filterMap_eq_nil_iff.mpr fine
  refine ⟨?_, fastRan.trans slowRan.symm⟩
  rw [slowRan]
  simp only [List.filterMap_append, openingEvents_failures, failures_of_turns, quietTurns,
    conclude_failures]
  rfl

theorem policies_part_at_failure {us vs : List (Turn σ B)} {u : Turn σ B} {f : PluginFailure}
    (laid : turns t e.locator e.plugins b world' = us ++ u :: vs)
    (fine : ∀ v ∈ us, v.failure? t e.locator = none) (failing : u.failure? t e.locator = some f) :
    ∃ before after, Parted notify store ((e.withPolicy .proceed).process c x pool world store)
      ((e.withPolicy (.failFast notify)).process c x pool world store) t f before after := by
  have slowRan : (e.withPolicy .proceed).process c x pool world store = _ :=
    process_of_folded resolved seeded
      (applyPlugins_proceed t e.locator 0 e.plugins ⟨b, false, false⟩ world')
  have fastRan : (e.withPolicy (.failFast notify)).process c x pool world store = _ :=
    process_of_stopped resolved seeded (applyPlugins_failFast_of_failing t e.locator 0 notify
      e.plugins ⟨b, false, false⟩ world' laid fine failing)
  have quietTurns : us.filterMap (Turn.failure? t e.locator) = [] :=
    List.filterMap_eq_nil_iff.mpr fine
  let before : List (Event B) := openingEvents consulted (c.name x) t e.version ++
    (turnEvents t e.locator 0 us ++ u.calls t (0 + us.length))
  let g := progressAfter t e.locator e.plugins ⟨b, false, false⟩ world'
  let after : List (Event B) := turnEvents t e.locator (0 + us.length + 1) vs ++
    ((e.withPolicy .proceed).conclude c x t g store).2.1
  refine ⟨before, after, ?_, ?_, ?_, ?_, ?_, ?_⟩
  · simp only [slowRan, laid, turnEvents_at_failure t e.locator 0 us vs failing, before, after, g,
      List.append_assoc, List.cons_append]
    rfl
  · exact (openingEvents_open _ _ _ _).append
      ((turnEvents_open t e.locator 0 us).append (calls_open t _ u))
  · simp only [before, List.filterMap_append, openingEvents_failures, failures_of_turns,
      quietTurns, calls_failures]
    rfl
  · rw [fastRan]
  · rw [fastRan]
    simp [announced, withPolicy, before]
  · rw [fastRan]

end

theorem process_policies_agree (e : Engine ρ σ B) (c : Container S E) (x : E) (notify : Bool)
    (pool : ρ) (world : σ) (store : S) :
    let slow := (e.withPolicy .proceed).process c x pool world store
    let fast := (e.withPolicy (.failFast notify)).process c x pool world store
    (pluginFailures slow.events = [] ∧ fast = slow) ∨
      ∃ t f before after, Parted notify store slow fast t f before after := by
  intro slow fast
  rcases found : e.pool.describe (c.name x) pool with ⟨⟨type?, consulted⟩, pool'⟩
  cases type? with
  | none =>
    have slowRan : slow = _ := process_of_unresolved found
    have fastRan : fast = _ := process_of_unresolved found
    refine Or.inl ⟨?_, fastRan.trans slowRan.symm⟩
    simp [slowRan, lookupEvents_failures, Event.pluginFailure?]
  | some t =>
    rcases begun : e.entryPoint t e.version e.locator world with ⟨err | b, world'⟩
    · have slowRan : slow = _ := process_of_unseeded found begun
      have fastRan : fast = _ := process_of_unseeded found begun
      refine Or.inl ⟨?_, fastRan.trans slowRan.symm⟩
      rw [slowRan]
      exact openingEvents_failures consulted (c.name x) t e.version
    · rcases first_failing_turn t e.locator (turns t e.locator e.plugins b world') with
        fine | ⟨us, u, vs, f, laid, fine, failing⟩
      · exact Or.inl (policies_alike_of_fine notify store found begun fine)
      · exact Or.inr ⟨t, f, policies_part_at_failure notify store found begun laid fine failing⟩

end Engine

variable [Builder B]

/-- A run that goes on, beside the same run failing fast. Without a plugin failure they are equal.
Else the fast run settles the same elements, deals with the next one to the same failure, and
stops. -/
inductive Curtailed (e : Engine ρ σ B) (c : Container S E) (notify : Bool) (s : Supply S E)
    (p : Position ρ σ S) :
    Ran ρ σ B S (Except RunError Report) → Ran ρ σ B S (Except RunError Report) → Prop where
  | same {ran : Ran ρ σ B S (Except RunError Report)} (quiet : pluginFailures ran.events = []) :
      Curtailed e c notify s p ran ran
  | stopped {slow fast : Ran ρ σ B S (Except RunError Report)} {visits : List (Visit E B)}
      {left rest : Supply S E} {q : Position ρ σ S} {x : E} {t : TypeName}
      {f : PluginFailure} {before after : List (Event B)}
      (course : Course (e.withPolicy .proceed) c s p visits left q)
      (drawn : left.draw q.store = some (.ok x, rest))
      (opened : AllOpen before)
      (quiet : pluginFailures (visitLogs c visits ++ .received (c.name x) :: before) = [])
      (slowEvents : slow.events = visitLogs c visits ++ .received (c.name x) :: before ++
        .notified (.pluginFailure t f) :: after)
      (fastResult : fast.result = .error (.plugin t.name f))
      (fastEvents : fast.events = visitLogs c visits ++ .received (c.name x) :: before ++
        announced notify t f)
      (fastStore : fast.store = c.handOut x q.store) :
      Curtailed e c notify s p slow fast

theorem curtailed_after_visit {e : Engine ρ σ B} {c : Container S E} {notify : Bool}
    {s rest : Supply S E} {p q : Position ρ σ S} {v : Visit E B}
    {slow fast : Ran ρ σ B S (Except RunError Report)}
    (drawn : s.draw p.store = some (.ok v.element, rest))
    (dealt : (e.withPolicy .proceed).process c v.element p.pool p.world
      (c.handOut v.element p.store) = ⟨.ok v.outcome, v.events, q.pool, q.world, q.store⟩)
    (disposed : disposals v.events = [(c.name v.element, v.artifact?)])
    (quiet : pluginFailures v.events = []) (h : Curtailed e c notify rest q slow fast) :
    Curtailed e c notify s p
      { slow with events := v.log c ++ slow.events }
      { fast with events := v.log c ++ fast.events } := by
  have quietLog : pluginFailures (v.log c) = [] := quiet
  cases h with
  | same quietLater =>
    refine .same ?_
    simp only [List.filterMap_append, quietLog, quietLater]
    rfl
  | @stopped _ visits left later r x t f before after course next opened quietBefore slowEvents
      fastResult fastEvents fastStore =>
    have slowAll : v.log c ++ slow.events = visitLogs c (v :: visits) ++ .received (c.name x) ::
        before ++ .notified (.pluginFailure t f) :: after := by
      simp [slowEvents]
    refine .stopped (.cons drawn dealt disposed course) next opened ?_ slowAll fastResult ?_
      fastStore
    · rw [visitLogs_cons, List.append_assoc]
      simp only [List.filterMap_append, quietLog] at quietBefore ⊢
      simpa using quietBefore
    · simp [fastEvents]

theorem curtailed_at_failure {e : Engine ρ σ B} {c : Container S E} {x : E} {notify : Bool}
    {t : TypeName} {f : PluginFailure} {before after : List (Event B)}
    {s rest : Supply S E} (report : Report) {p : Position ρ σ S}
    (drawn : s.draw p.store = some (.ok x, rest))
    (parted : Engine.Parted notify (c.handOut x p.store)
      ((e.withPolicy .proceed).process c x p.pool p.world (c.handOut x p.store))
      ((e.withPolicy (.failFast notify)).process c x p.pool p.world (c.handOut x p.store))
      t f before after) :
    Curtailed e c notify s p
      ((e.withPolicy .proceed).processAll c s report p.pool p.world p.store)
      ((e.withPolicy (.failFast notify)).processAll c s report p.pool p.world p.store) := by
  obtain ⟨slowEvents, opened, quiet, result, events, store⟩ := parted
  obtain ⟨more, slowFirst⟩ :=
    processAll_events report drawn (e.withPolicy .proceed) c p.pool p.world
  have slowWhole : ((e.withPolicy .proceed).processAll c s report p.pool p.world
      p.store).events = visitLogs c [] ++ .received (c.name x) :: before ++
        .notified (.pluginFailure t f) :: (after ++ more) := by
    rw [slowFirst, slowEvents]
    simp
  rcases fastDealt : (e.withPolicy (.failFast notify)).process c x p.pool p.world
    (c.handOut x p.store) with ⟨stopped, stopEvents, pool, world, left⟩
  rw [fastDealt] at result events store
  obtain rfl : stopped = _ := result
  rw [processAll_of_givenUp report drawn fastDealt]
  refine .stopped (.nil s p) drawn opened ?_ slowWhole rfl ?_ store
  · simpa [Event.pluginFailure?] using quiet
  · simpa using events

theorem processAll_curtailed (e : Engine ρ σ B) (c : Container S E) (notify : Bool)
    (s : Supply S E) (report : Report) (p : Position ρ σ S) :
    Curtailed e c notify s p
      ((e.withPolicy .proceed).processAll c s report p.pool p.world p.store)
      ((e.withPolicy (.failFast notify)).processAll c s report p.pool p.world p.store) := by
  induction s using Supply.draw_induction generalizing report p with
  | step s ih =>
    rcases drawn : s.draw p.store with _ | ⟨err | x, rest⟩
    · rw [processAll_of_exhausted report drawn, processAll_of_exhausted report drawn]
      exact .same rfl
    · rw [processAll_of_unreadable report drawn, processAll_of_unreadable report drawn]
      exact .same rfl
    · obtain ⟨quiet, agree⟩ | ⟨t, f, before, after, parted⟩ :=
        e.process_policies_agree c x notify p.pool p.world (c.handOut x p.store)
      · -- What the element comes to is the same for both, and so is the position after it.
        rcases dealt : (e.withPolicy .proceed).process c x p.pool p.world (c.handOut x p.store) with
          ⟨err | o, events, pool, world, store⟩ <;> rw [dealt] at quiet agree
        · rw [processAll_of_givenUp report drawn dealt, processAll_of_givenUp report drawn agree]
          exact .same (by simpa [Event.pluginFailure?] using quiet)
        · rw [processAll_of_settled report drawn dealt, processAll_of_settled report drawn agree]
          obtain ⟨a?, inner, last, happened, opened, settles, _⟩ := process_settled dealt
          have disposed : disposals events = [(c.name x, a?)] :=
            happened ▸ settled_disposals opened settles
          let v : Visit E B := ⟨x, o, a?, events⟩
          exact curtailed_after_visit (v := v) drawn dealt disposed quiet
            (ih p.store _ rest drawn (report.record o) ⟨pool, world, store⟩)
      · exact curtailed_at_failure report drawn parted

/-- What failing fast comes to when the run that goes on has the failure `f` after `before`. -/
structure CutShort (e : Engine ρ σ B) (source : Source S E) (notify : Bool) (pool : ρ) (world : σ)
    (before : List (Event B)) (t : TypeName) (f : PluginFailure)
    (fast : Ran ρ σ B S (Except RunError Report)) : Prop where
  result : fast.result = .error (.plugin t.name f)
  events : fast.events = before ++ announced notify t f ++ [.closed]
  notified : notifications fast.events =
    notifications before ++ if notify then [.pluginFailure t f] else []
  disposed : disposals fast.events = disposals before
  /-- The visits are those of the run that goes on, up to the element of the failure. -/
  settled : ∃ visits x left rest q inner,
    Course (e.withPolicy .proceed) source.container source.pending ⟨pool, world, source.store⟩
      visits left q ∧
    TakesFirst source.pending visits left ∧ left.draw q.store = some (.ok x, rest) ∧
    before = visitLogs source.container visits ++ .received (source.container.name x) :: inner ∧
    disposals before = visits.map (fun v => (source.container.name v.element, v.artifact?)) ∧
    fast.store = (source.container.close (source.container.handOut x q.store)).2

theorem stopped_cutShort {e : Engine ρ σ B} {source : Source S E} {notify : Bool} {pool : ρ}
    {world : σ} {visits : List (Visit E B)} {q : Position ρ σ S} {x : E}
    {left rest : Supply S E} {t : TypeName} {f : PluginFailure} {inner : List (Event B)}
    {stopping fast : Ran ρ σ B S (Except RunError Report)}
    (fastRan : fast = stopping.close source.container)
    (course : Course (e.withPolicy .proceed) source.container source.pending
      ⟨pool, world, source.store⟩ visits left q)
    (drawn : left.draw q.store = some (.ok x, rest))
    (opened : AllOpen inner) (result : stopping.result = .error (.plugin t.name f))
    (events : stopping.events = visitLogs source.container visits ++
      .received (source.container.name x) :: inner ++ announced notify t f)
    (store : stopping.store = source.container.handOut x q.store) :
    CutShort e source notify pool world (visitLogs source.container visits ++
      .received (source.container.name x) :: inner) t f fast := by
  obtain ⟨settled, stored⟩ := course_settled course
  have fastEvents : fast.events = visitLogs source.container visits ++
      .received (source.container.name x) :: inner ++ announced notify t f ++ [.closed] := by
    rw [fastRan, ← events]
    rfl
  have disposed : disposals (visitLogs source.container visits ++
      .received (source.container.name x) :: inner) =
        visits.map (fun v => (source.container.name v.element, v.artifact?)) := by
    simp only [List.filterMap_append, (settled_logs settled).1]
    simpa [Event.disposal?] using opened.disposals_eq
  refine ⟨?_, fastEvents, ?_, ?_, visits, x, left, rest, q, inner, course,
    stored_takesFirst stored, drawn, rfl, disposed, ?_⟩
  · rw [fastRan]
    simp [Ran.close, result, closingResult]
  · rw [fastEvents, notifications_append, notifications_append, announced_notifications]
    exact List.append_nil _
  · rw [fastEvents]
    simp only [List.filterMap_append, announced_disposals]
    simp [Event.disposal?]
  · rw [fastRan, ← store]
    rfl

/-- Failing fast is going on, cut off at the first plugin failure. Whatever plugins fail, the fast
run has settled just the elements that the other one had settled before the failing element. -/
theorem fail_fast_cuts_at_first_failure (e : Engine ρ σ B) (source : Source S E) (notify : Bool)
    (pool : ρ) (world : σ) :
    let slow := (e.withPolicy .proceed).run source pool world
    let fast := (e.withPolicy (.failFast notify)).run source pool world
    (pluginFailures slow.events = [] → fast = slow) ∧
    ∀ before t f after, slow.events = before ++ .notified (.pluginFailure t f) :: after →
      pluginFailures before = [] → CutShort e source notify pool world before t f fast := by
  intro slow fast
  have slowRan : slow = _ := run_eq_close (e.withPolicy .proceed) source pool world
  have fastRan : fast = _ := run_eq_close (e.withPolicy (.failFast notify)) source pool world
  have curtailed : Curtailed e source.container notify source.pending ⟨pool, world, source.store⟩
      ((e.withPolicy .proceed).processing source pool world)
      ((e.withPolicy (.failFast notify)).processing source pool world) :=
    processAll_curtailed e source.container notify source.pending {} ⟨pool, world, source.store⟩
  generalize (e.withPolicy .proceed).processing source pool world = going at slowRan curtailed
  generalize (e.withPolicy (.failFast notify)).processing source pool world = stopping
    at fastRan curtailed
  have slowEvents : slow.events = going.events ++ [.closed] := by rw [slowRan]; rfl
  cases curtailed with
  | same quiet =>
    refine ⟨fun _ => fastRan.trans slowRan.symm, ?_⟩
    intro before t f after split quietBefore
    have quietAll : pluginFailures slow.events = [] := by
      rw [slowEvents]
      simp only [List.filterMap_append, quiet]
      rfl
    exact absurd (split ▸ quietAll) (failure_noticed before after t f)
  | @stopped _ visits left rest q x t f inner after course drawn opened quiet goingEvents
      stopResult stopEvents stopStore =>
    have slowSplit : slow.events = visitLogs source.container visits ++
        .received (source.container.name x) :: inner ++
          .notified (.pluginFailure t f) :: (after ++ [.closed]) := by
      rw [slowEvents, goingEvents, List.append_assoc]
      rfl
    refine ⟨?_, ?_⟩
    · intro none
      exact absurd (slowSplit ▸ none) (failure_noticed _ _ t f)
    · intro before t' f' after' split' quiet'
      obtain ⟨rfl, rfl, rfl⟩ := first_failure_unique quiet' quiet (split'.symm.trans slowSplit)
      exact stopped_cutShort fastRan course drawn opened stopResult stopEvents stopStore

end ClassForge
