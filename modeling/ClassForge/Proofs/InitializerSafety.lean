import ClassForge.Proofs.ElementFold
import ClassForge.Proofs.PartingRuns

/-!
Live initializers. Where they are refused, no artifact that has one is to take an element's place,
and the first such artifact that is made ends the run. Up to its element, the run is the one in
which they are permitted.
-/
namespace ClassForge
variable {ρ σ B S E : Type}

def Artifact.FirstAlive (a : Artifact) (t : TypeName) (i : Initializer) : Prop :=
  i.alive = true ∧ ∃ earlier later, a.initializers = earlier ++ (t, i) :: later ∧
    ∀ entry ∈ earlier, entry.2.alive = false

theorem Artifact.liveInitializer?_eq_some_iff (a : Artifact) (t : TypeName) (i : Initializer) :
    a.liveInitializer? = some (t, i) ↔ a.FirstAlive t i := by
  simp [liveInitializer?, FirstAlive, List.find?_eq_some_iff_append]

theorem Artifact.liveInitializer?_eq_none_iff (a : Artifact) :
    a.liveInitializer? = none ↔ ∀ entry ∈ a.initializers, entry.2.alive = false := by
  simp [liveInitializer?]

theorem check_of_dormant (policy : InitializerPolicy) {a : Artifact}
    (dormant : a.liveInitializer? = none) : policy.check a = .ok () := by
  cases policy <;> simp [InitializerPolicy.check, dormant]

theorem reject_check_of_alive {a : Artifact} {t : TypeName} {i : Initializer}
    (alive : a.liveInitializer? = some (t, i)) :
    InitializerPolicy.reject.check a = .error (.liveInitializer t.name i.description) := by
  simp [InitializerPolicy.check, alive]

def Engine.guardedBy (e : Engine ρ σ B) (policy : InitializerPolicy) : Engine ρ σ B :=
  { e with initializerPolicy := policy }

variable [Builder B]

def Event.MakesLive (ev : Event B) : Prop :=
  ∃ b a, ev = .made b ∧ Builder.make b = .ok a ∧ a.liveInitializer? ≠ none

theorem quiet_iff_dormant {events : List (Event B)} :
    Quiet Event.MakesLive events ↔
      ∀ b ∈ makings events, ∀ a, Builder.make b = .ok a → a.liveInitializer? = none := by
  constructor
  · intro quiet b member a made
    obtain ⟨ev, inside, making⟩ := List.mem_filterMap.mp member
    refine Classical.byContradiction fun live => ?_
    cases ev with
    | made b' =>
      obtain rfl := Option.some.inj making
      exact quiet _ inside ⟨b', a, rfl, made, live⟩
    | _ => simp [Event.making?] at making
  · rintro dormant ev member ⟨b, a, rfl, made, live⟩
    exact live (dormant b (List.mem_filterMap.mpr ⟨_, member, rfl⟩) a made)

theorem quiet_of_unmade {events : List (Event B)} (unmade : makings events = []) :
    Quiet Event.MakesLive events := quiet_iff_dormant.mpr (by simp [unmade])

/-- A strict engine gives up an element for which the lenient one makes a live artifact. -/
structure Refusal (store : S) (lenient strict : Ran ρ σ B S (Except RunError Outcome))
    (before after : List (Event B)) (b : B) (t : TypeName) (i : Initializer) : Prop where
  lenientEvents : lenient.events = before ++ .made b :: after
  opened : AllOpen before
  quiet : makings before = []
  silent : notifications before = []
  alive : ∃ a, Builder.make b = .ok a ∧ a.liveInitializer? = some (t, i)
  result : strict.result = .error (.liveInitializer t.name i.description)
  events : strict.events = before ++ [.made b]
  store : strict.store = store

abbrev Refused (store : S) (lenient strict : Ran ρ σ B S (Except RunError Outcome)) : Prop :=
  ∃ before after b t i, Refusal store lenient strict before after b t i

theorem commitment_replacement {e : Engine ρ σ B} {c : Container S E} {x : E} {t : TypeName} {b : B}
    {store after : S} {result : Except RunError Outcome} {tried : List (String × Artifact × Bool)}
    {heard : List Notification} {name : String} {a : Artifact} {written : Bool}
    (h : Commitment e c x t b store result tried heard after)
    (member : (name, a, written) ∈ tried) :
    e.initializerPolicy.check a = .ok () := by
  cases h with
  | unmade => simp at member
  | rejected => simp at member
  | refused made passed refused =>
    simp only [List.mem_singleton, Prod.mk.injEq] at member
    exact member.2.1 ▸ passed
  | replaced made passed replaced =>
    simp only [List.mem_singleton, Prod.mk.injEq] at member
    exact member.2.1 ▸ passed

namespace Engine
variable (e : Engine ρ σ B) (c : Container S E) (x : E)

theorem commit_guarded (t : TypeName) (b : B) (store : S) :
    (e.guardedBy .reject).commit c x t b store = (e.guardedBy .permit).commit c x t b store ∧
        (∀ a, Builder.make b = .ok a → a.liveInitializer? = none) ∨
      ∃ a t' i, Builder.make b = .ok a ∧ a.liveInitializer? = some (t', i) ∧
        (e.guardedBy .reject).commit c x t b store =
          (.error (.liveInitializer t'.name i.description), [.made b], store) := by
  cases made : Builder.make b with
  | error err =>
    left
    rw [commit_of_unmade _ c x t made, commit_of_unmade _ c x t made]
    exact ⟨rfl, by simp⟩
  | ok a =>
    cases live : a.liveInitializer? with
    | some entry =>
      obtain ⟨t', i⟩ := entry
      exact Or.inr ⟨a, t', i, rfl, live,
        commit_of_rejected _ c x t made (reject_check_of_alive live)⟩
    | none =>
      left
      have strict : (e.guardedBy .reject).initializerPolicy.check a = .ok () :=
        check_of_dormant _ live
      have lenient : (e.guardedBy .permit).initializerPolicy.check a = .ok () :=
        check_of_dormant _ live
      refine ⟨?_, fun a' same => Except.ok.inj same ▸ live⟩
      rcases replaced : c.replace x a store with ⟨err | done, after⟩
      · rw [commit_of_refused _ c x t made strict replaced,
          commit_of_refused _ c x t made lenient replaced]
      · rw [commit_of_replaced _ c x t made strict replaced,
          commit_of_replaced _ c x t made lenient replaced]

theorem commit_makes_first (t : TypeName) (b : B) (store : S) :
    ∃ rest, (e.commit c x t b store).2.1 = .made b :: rest := by
  cases made : Builder.make b with
  | error err => exact ⟨_, congrArg (·.2.1) (commit_of_unmade e c x t made)⟩
  | ok a =>
    cases checked : e.initializerPolicy.check a with
    | error err => exact ⟨_, congrArg (·.2.1) (commit_of_rejected e c x t made checked)⟩
    | ok done =>
      rcases replaced : c.replace x a store with ⟨err | done, after⟩
      · exact ⟨_, congrArg (·.2.1) (commit_of_refused e c x t made checked replaced)⟩
      · exact ⟨_, congrArg (·.2.1) (commit_of_replaced e c x t made checked replaced)⟩

theorem commit_quiet {t : TypeName} {b : B} (store : S)
    (dormant : ∀ a, Builder.make b = .ok a → a.liveInitializer? = none) :
    Quiet Event.MakesLive (e.commit c x t b store).2.1 := by
  rintro ev member ⟨b', a, rfl, made, live⟩
  obtain same | ⟨_, _, other⟩ | other := mem_commit member
  · obtain rfl := Event.made.inj same
    exact live (dormant a made)
  · simp at other
  · simp at other

section
variable {e c x} {pool pool' : ρ} {world world' : σ} (store : S) {t : TypeName} {consulted : Bool}
  {b : B} (resolved : e.pool.describe (c.name x) pool = (⟨some t, consulted⟩, pool'))
  (seeded : e.entryPoint t e.version e.locator world = (.ok b, world'))
include resolved seeded

theorem guarded_of_failing {us vs : List (Turn σ B)} {u : Turn σ B} {f : PluginFailure}
    (laid : turns t e.locator e.plugins b world' = us ++ u :: vs)
    (fine : ∀ v ∈ us, v.failure? t e.locator = none) (failing : u.failure? t e.locator = some f) :
    makings ((e.guardedBy .permit).process c x pool world store).events = [] ∧
      (e.guardedBy .reject).process c x pool world store =
        (e.guardedBy .permit).process c x pool world store := by
  refine ⟨process_unmade_of_failing store resolved seeded laid fine failing, ?_⟩
  cases policy : e.failurePolicy with
  | failFast notify =>
    have stopped := applyPlugins_failFast_of_failing t e.locator 0 notify e.plugins
      ⟨b, false, false⟩ world' laid fine failing
    rw [← policy] at stopped
    have ran : ∀ policy, (e.guardedBy policy).process c x pool world store = _ :=
      fun policy => process_of_stopped resolved seeded stopped
    exact (ran .reject).trans (ran .permit).symm
  | proceed =>
    have looped := applyPlugins_proceed t e.locator 0 e.plugins ⟨b, false, false⟩ world'
    rw [← policy] at looped
    have failed : (progressAfter t e.locator e.plugins ⟨b, false, false⟩ world').failed = true :=
      progress_failed_iff.mpr ⟨u, by simp [laid], by simp [failing]⟩
    have ran : ∀ policy, (e.guardedBy policy).process c x pool world store = _ :=
      fun policy => process_of_folded resolved seeded looped
    simp only [conclude_of_failed _ c x t _ store failed] at ran
    exact (ran .reject).trans (ran .permit).symm

theorem guarded_of_fine
    (fine : ∀ u ∈ turns t e.locator e.plugins b world', u.failure? t e.locator = none) :
    Parting Event.MakesLive Refused store ((e.guardedBy .permit).process c x pool world store)
      ((e.guardedBy .reject).process c x pool world store) := by
  let g := progressAfter t e.locator e.plugins ⟨b, false, false⟩ world'
  let before : List (Event B) := openingEvents consulted (c.name x) t e.version ++
    turnEvents t e.locator 0 (turns t e.locator e.plugins b world')
  let ended policy := (e.guardedBy policy).conclude c x t g store
  have looped := applyPlugins_of_fine t e.locator 0 e.failurePolicy e.plugins ⟨b, false, false⟩
    world' fine
  have ran : ∀ policy, (e.guardedBy policy).process c x pool world store =
      ⟨(ended policy).1, before ++ (ended policy).2.1, pool',
        (afterTurns t e.locator e.plugins b world').2, (ended policy).2.2⟩ :=
    fun policy => process_of_folded resolved seeded looped
  have opened : AllOpen before :=
    (openingEvents_open consulted (c.name x) t e.version).append (turnEvents_open t e.locator 0 _)
  have unmade : makings before = [] := by
    rw [makings_append, makings_of_turns]
    cases consulted <;> rfl
  have silent : notifications before = [] := by
    simp only [before, notifications_append, notifications_of_turns,
      List.filterMap_eq_nil_iff.mpr fine]
    cases consulted <;> rfl
  have unfailed : g.failed = false := progress_failed_eq_false fine
  rw [ran, ran]
  cases changed : g.transformed with
  | false =>
    have same : ∀ policy, ended policy = _ :=
      fun policy => conclude_of_untransformed _ c x t g store unfailed changed
    rw [same, same]
    refine .same ((quiet_of_unmade unmade).append (quiet_of_unmade ?_))
    rfl
  | true =>
    have committed : ∀ policy, ended policy = (e.guardedBy policy).commit c x t g.builder store :=
      fun policy => conclude_of_transformed _ c x t g store unfailed changed
    rw [committed, committed]
    obtain ⟨same, dormant⟩ | ⟨a, t', i, made, live, refused⟩ :=
      e.commit_guarded c x t g.builder store
    · rw [same]
      exact .same ((quiet_of_unmade unmade).append (commit_quiet _ c x store dormant))
    · obtain ⟨rest, events⟩ := (e.guardedBy .permit).commit_makes_first c x t g.builder store
      rw [refused, events]
      exact .stopped rfl ⟨before, rest, g.builder, t', i, rfl, opened, unmade, silent,
        ⟨a, made, live⟩, rfl, rfl, rfl⟩

end

/-- With one element, the two policies differ at most over a live artifact that is made for it. -/
theorem process_guarded (pool : ρ) (world : σ) (store : S) :
    Parting Event.MakesLive Refused store ((e.guardedBy .permit).process c x pool world store)
      ((e.guardedBy .reject).process c x pool world store) := by
  have alike : ∀ {lenient strict : Ran ρ σ B S (Except RunError Outcome)},
      makings lenient.events = [] → strict = lenient →
        Parting Event.MakesLive Refused store lenient strict := by
    rintro lenient _ unmade rfl
    exact .same (quiet_of_unmade unmade)
  rcases found : e.pool.describe (c.name x) pool with ⟨⟨type?, consulted⟩, pool'⟩
  cases type? with
  | none =>
    have ran : ∀ policy, (e.guardedBy policy).process c x pool world store = _ :=
      fun policy => process_of_unresolved found
    refine alike ?_ ((ran .reject).trans (ran .permit).symm)
    rw [ran]
    cases consulted <;> rfl
  | some t =>
    rcases begun : e.entryPoint t e.version e.locator world with ⟨err | b, world'⟩
    · have ran : ∀ policy, (e.guardedBy policy).process c x pool world store = _ :=
        fun policy => process_of_unseeded found begun
      refine alike ?_ ((ran .reject).trans (ran .permit).symm)
      rw [ran]
      cases consulted <;> rfl
    · rcases first_failing_turn t e.locator (turns t e.locator e.plugins b world') with
        fine | ⟨us, u, vs, f, laid, fine, failing⟩
      · exact guarded_of_fine store found begun fine
      · obtain ⟨unmade, same⟩ := guarded_of_failing store found begun laid fine failing
        exact alike unmade same

theorem commit_replacement {t : TypeName} {b : B} {store : S} {name : String} {a : Artifact}
    {written : Bool} (tried : (name, a, written) ∈ replacements (e.commit c x t b store).2.1) :
    e.initializerPolicy.check a = .ok () :=
  commitment_replacement (e.commit_commitment c x t store b).2 tried

theorem process_replacement {pool : ρ} {world : σ} {store : S} {name : String} {a : Artifact}
    {written : Bool}
    (tried : (name, a, written) ∈ replacements (e.process c x pool world store).events) :
    e.initializerPolicy.check a = .ok () := by
  rcases found : e.pool.describe (c.name x) pool with ⟨⟨type?, consulted⟩, pool'⟩
  cases type? with
  | none =>
    rw [process_of_unresolved found] at tried
    cases consulted <;> simp [lookupEvents, Event.replacement?] at tried
  | some t =>
    have opening : replacements (openingEvents consulted (c.name x) t e.version : List (Event B)) =
      [] := by cases consulted <;> rfl
    rcases begun : e.entryPoint t e.version e.locator world with ⟨err | b, world'⟩
    · rw [process_of_unseeded found begun] at tried
      simp [opening] at tried
    · have looped := applyPlugins_replacements t e.locator 0 e.failurePolicy e.plugins
        ⟨b, false, false⟩ world'
      rcases turned : applyPlugins e.failurePolicy e.locator t 0 e.plugins ⟨b, false, false⟩ world'
        with ⟨err | g, events, last⟩
      all_goals rw [turned] at looped
      · rw [process_of_stopped found begun turned, replacements_append, opening, looped] at tried
        simp at tried
      · rw [process_of_folded found begun turned, replacements_append, replacements_append, opening,
          looped] at tried
        simp only [List.nil_append, conclude] at tried
        split at tried
        · simp [Event.replacement?] at tried
        · split at tried
          · simp [Event.replacement?] at tried
          · exact e.commit_replacement c x tried

end Engine

theorem dormant_of_check {a : Artifact} (passed : InitializerPolicy.reject.check a = .ok ()) :
    a.liveInitializer? = none := by
  cases live : a.liveInitializer? with
  | none => rfl
  | some entry => simp [reject_check_of_alive live] at passed

/-- Where live initializers are refused, no artifact with one is passed on. -/
theorem strict_replacements_dormant {e : Engine ρ σ B} (strict : e.initializerPolicy = .reject)
    (source : Source S E) (pool : ρ) (world : σ) {name : String} {a : Artifact} {written : Bool}
    (tried : (name, a, written) ∈ replacements (e.run source pool world).events) :
    a.liveInitializer? = none := by
  let Passes (ev : Event B) : Prop := ∀ name a written, ev.replacement? = some (name, a, written) →
    e.initializerPolicy.check a = .ok ()
  have every : ∀ ev ∈ (e.run source pool world).events, Passes ev := by
    rw [run_eq_close]
    refine List.forall_mem_append.mpr ⟨processAll_every ?_ ?_ ?_ ?_ source.pending {}
      ⟨pool, world, source.store⟩, ?_⟩
    · simp [Passes, Event.replacement?]
    · simp [Passes, Event.replacement?]
    · simp [Passes, Event.replacement?]
    · intro x pool world store ev member name a written found
      exact e.process_replacement source.container x (List.mem_filterMap.mpr ⟨ev, member, found⟩)
    · simp [Passes, Event.replacement?]
  obtain ⟨ev, member, found⟩ := List.mem_filterMap.mp tried
  have passed := every ev member name a written found
  rw [strict] at passed
  exact dormant_of_check passed

/-- The strict run when the lenient one makes a live artifact after `before`, with no other live one
before it. -/
structure RefusedRun (e : Engine ρ σ B) (source : Source S E) (pool : ρ) (world : σ)
    (before : List (Event B)) (b : B) (t : TypeName) (i : Initializer)
    (strict : Ran ρ σ B S (Except RunError Report)) : Prop where
  result : strict.result = .error (.liveInitializer t.name i.description)
  events : strict.events = before ++ [.made b, .closed]
  /-- The visits are those of the lenient run, up to the element of the live artifact. -/
  settled : ∃ visits x left rest q inner,
    Course (e.guardedBy .permit) source.container source.pending ⟨pool, world, source.store⟩ visits
      left q ∧
    TakesFirst source.pending visits left ∧ left.draw q.store = some (.ok x, rest) ∧
    before = visitLogs source.container visits ++ .received (source.container.name x) :: inner ∧
    notifications strict.events = notifications (visitLogs source.container visits) ∧
    disposals strict.events = disposals (visitLogs source.container visits) ∧
    disposals strict.events =
      visits.map (fun v => (source.container.name v.element, v.artifact?)) ∧
    strict.store = (source.container.close (source.container.handOut x q.store)).2

/-- Either nothing live is made, or the strict run ends where the lenient one first makes it. -/
theorem runs_guarded (e : Engine ρ σ B) (source : Source S E) (pool : ρ) (world : σ) :
    let lenient := (e.guardedBy .permit).run source pool world
    let strict := (e.guardedBy .reject).run source pool world
    (Quiet Event.MakesLive lenient.events ∧ strict = lenient) ∨
      ∃ before b a t i after, lenient.events = before ++ .made b :: after ∧
        Quiet Event.MakesLive before ∧ Builder.make b = .ok a ∧
        a.liveInitializer? = some (t, i) ∧ RefusedRun e source pool world before b t i strict := by
  intro lenient strict
  have lenientRan : lenient = _ := run_eq_close (e.guardedBy .permit) source pool world
  have strictRan : strict = _ := run_eq_close (e.guardedBy .reject) source pool world
  have parting : PartingRuns (e.guardedBy .permit) (e.guardedBy .reject) source.container
      Event.MakesLive Refused source.pending ⟨pool, world, source.store⟩
      ((e.guardedBy .permit).processing source pool world)
      ((e.guardedBy .reject).processing source pool world) :=
    processAll_parts (by simp [Event.MakesLive]) (by simp [Event.MakesLive])
      (by simp [Event.MakesLive]) (e.process_guarded source.container) source.pending {}
      ⟨pool, world, source.store⟩
  -- Both runs are closed in the same way, so only what came before is of interest.
  generalize (e.guardedBy .permit).processing source pool world = going at lenientRan parting
  generalize (e.guardedBy .reject).processing source pool world = stopping at strictRan parting
  have lenientEvents : lenient.events = going.events ++ [.closed] := by rw [lenientRan]; rfl
  have strictEvents : strict.events = stopping.events ++ [.closed] := by rw [strictRan]; rfl
  cases parting with
  | same quiet =>
    refine Or.inl ⟨?_, strictRan.trans lenientRan.symm⟩
    rw [lenientEvents]
    exact quiet.append (.cons (by simp [Event.MakesLive]) .nil)
  | @stopped _ visits left next q x more err ran ran' course drawn quiet dealt dealt' apart failed
      goingEvents result events store =>
    obtain ⟨inner, rest, b, t, i, refusal⟩ := apart
    obtain ⟨a, made, live⟩ := refusal.alive
    obtain rfl : .liveInitializer t.name i.description = err :=
      Except.error.inj (refusal.result.symm.trans failed)
    obtain ⟨settled, stored⟩ := course_settled course
    have logged := (settled_logs settled).1
    have whole : strict.events = visitLogs source.container visits ++
        .received (source.container.name x) :: inner ++ [.made b, .closed] := by
      rw [strictEvents, events, refusal.events]
      simp
    have disposed : disposals strict.events = disposals (visitLogs source.container visits) := by
      simp only [whole, List.filterMap_append, List.filterMap_cons, refusal.opened.disposals_eq]
      simp [Event.disposal?]
    have heard : notifications strict.events =
        notifications (visitLogs source.container visits) := by
      simp only [whole, notifications_append]
      simpa [notifications, Event.notification?] using refusal.silent
    refine Or.inr ⟨visitLogs source.container visits ++
        .received (source.container.name x) :: inner,
      b, a, t, i, rest ++ more ++ [.closed], ?_, ?_, made, live, ?_, whole, visits, x, left, next,
      q, inner, course, stored_takesFirst stored, drawn, rfl, heard, disposed,
      disposed.trans logged, ?_⟩
    · rw [lenientEvents, goingEvents, refusal.lenientEvents]
      simp
    · exact quiet.append (.cons (by simp [Event.MakesLive]) (quiet_of_unmade refusal.quiet))
    · rw [strictRan, Ran.close, result]
      rfl
    · rw [strictRan, Ran.close, store, refusal.store]

/-- Refusing live initializers is permitting them, cut off before the element of the first artifact
that has one. -/
theorem live_initializers_rejected (e : Engine ρ σ B) (source : Source S E) (pool : ρ) (world : σ) :
    let lenient := (e.guardedBy .permit).run source pool world
    let strict := (e.guardedBy .reject).run source pool world
    (∀ name a written, (name, a, written) ∈ replacements strict.events →
      a.liveInitializer? = none ∧ ∀ entry ∈ a.initializers, entry.2.alive = false) ∧
    (∀ b ∈ makings strict.events, ∀ a t i, Builder.make b = .ok a → a.FirstAlive t i →
      strict.result = .error (.liveInitializer t.name i.description)) ∧
    ((∀ b ∈ makings lenient.events, ∀ a, Builder.make b = .ok a → a.liveInitializer? = none) →
      strict = lenient) ∧
    ∀ before b a t i after, lenient.events = before ++ .made b :: after →
      (∀ b' ∈ makings before, ∀ a', Builder.make b' = .ok a' → a'.liveInitializer? = none) →
      Builder.make b = .ok a → a.FirstAlive t i →
      RefusedRun e source pool world before b t i strict := by
  intro lenient strict
  have safe : ∀ name a written, (name, a, written) ∈ replacements strict.events →
      a.liveInitializer? = none ∧ ∀ entry ∈ a.initializers, entry.2.alive = false := by
    intro name a written tried
    have dormant := strict_replacements_dormant rfl source pool world tried
    exact ⟨dormant, a.liveInitializer?_eq_none_iff.mp dormant⟩
  refine ⟨safe, ?_⟩
  simp only [← Artifact.liveInitializer?_eq_some_iff, ← quiet_iff_dormant]
  obtain ⟨quiet, same⟩ | ⟨before, b, a, t, i, after, split, quiet, made, live, refused⟩ :=
    runs_guarded e source pool world
  · have strictQuiet := quiet_iff_dormant.mp (same ▸ quiet)
    refine ⟨?_, fun _ => same, ?_⟩
    · intro b member a t i made live
      simp [strictQuiet b member a made] at live
    · intro before b a t i after split _ made live
      have noisy := quiet (.made b) (by simp [lenient, split])
      exact absurd ⟨b, a, rfl, made, by simp [live]⟩ noisy
  · have alarming : (Event.made b).MakesLive := ⟨b, a, rfl, made, by simp [live]⟩
    refine ⟨?_, ?_, ?_⟩
    · intro b' member a' t' i' made' live'
      rw [refused.events, makings_append] at member
      rcases List.mem_append.mp member with earlier | last
      · simp [quiet_iff_dormant.mp quiet b' earlier a' made'] at live'
      · obtain rfl : b' = b := by simpa [Event.making?] using last
        obtain rfl := Except.ok.inj (made'.symm.trans made)
        obtain ⟨rfl, rfl⟩ := Prod.mk.inj (Option.some.inj (live'.symm.trans live))
        exact refused.result
    · intro quietAll
      exact absurd alarming (quietAll (.made b) (by simp [lenient, split]))
    · intro before' b' a' t' i' after' split' quiet' made' live'
      have alarming' : (Event.made b').MakesLive := ⟨b', a', rfl, made', by simp [live']⟩
      obtain ⟨rfl, same⟩ :=
        first_alarm_unique quiet' quiet alarming' alarming (split'.symm.trans split)
      obtain rfl := Event.made.inj same
      obtain rfl := Except.ok.inj (made'.symm.trans made)
      obtain ⟨rfl, rfl⟩ := Prod.mk.inj (Option.some.inj (live'.symm.trans live))
      exact refused

end ClassForge
