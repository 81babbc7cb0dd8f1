import ClassForge.Proofs.ElementExit
import ClassForge.Rehearsal.Script
import ClassForge.Rehearsal.Source

/-!
What becomes of one resolved element when no failure ends the run. The turns of the plugins tell all
of it: who is applied to which builder, what listeners hear, and whether a type is made in the end.
-/
namespace ClassForge
variable {ρ σ B S E : Type}

structure Kept (c : Container S E) (x : E) (store : S) (o : Outcome)
    (ran : Ran ρ σ B S (Except RunError Outcome)) : Prop where
  result : ran.result = .ok o
  unmade : makings ran.events = []
  unreplaced : replacements ran.events = []
  retained : ran.store = c.retain x store

/-- The ways of a builder from making on, with the result, the replacements that were tried, the
notifications, and the store. Nothing but the made artifact is to take the element's place. -/
inductive Commitment [Builder B] (e : Engine ρ σ B) (c : Container S E) (x : E) (t : TypeName)
    (b : B) (store : S) : Except RunError Outcome → List (String × Artifact × Bool) →
      List Notification → S → Prop where
  | unmade {err : RunError} (unmade : Builder.make b = .error err) :
      Commitment e c x t b store (.error err) [] [] store
  | rejected {a : Artifact} {err : RunError} (made : Builder.make b = .ok a)
      (rejected : e.initializerPolicy.check a = .error err) :
      Commitment e c x t b store (.error err) [] [] store
  | refused {a : Artifact} {err : RunError} {after : S} (made : Builder.make b = .ok a)
      (passed : e.initializerPolicy.check a = .ok ())
      (refused : c.replace x a store = (.error err, after)) :
      Commitment e c x t b store (.error err) [(c.name x, a, false)] [] after
  | replaced {a : Artifact} {after : S} (made : Builder.make b = .ok a)
      (passed : e.initializerPolicy.check a = .ok ())
      (replaced : c.replace x a store = (.ok (), after)) :
      Commitment e c x t b store (.ok .success) [(c.name x, a, true)] [.success t] after

/-- What a run of one element comes to, by the turns `us` of the plugins, which start from the
builder `b` and the state `world`. -/
structure Folded [Builder B] (e : Engine ρ σ B) (c : Container S E) (x : E) (t : TypeName) (b : B)
    (world : σ) (store : S) (us : List (Turn σ B))
    (ran : Ran ρ σ B S (Except RunError Outcome)) : Prop where
  laid : us = turns t e.locator e.plugins b world
  everyone : us.map Turn.plugin = e.plugins
  /-- Whoever is for the type is applied once, in order, to the builder of its turn. -/
  applied : applications ran.events =
    (us.zipIdx.filter fun (u, _) => u.selected t).map fun (u, j) => (j, u.builder)
  reported : pluginFailures ran.events = (us.filterMap (Turn.failure? t e.locator)).map (t, ·)
  leftWorld : ran.world = (afterTurns t e.locator e.plugins b world).2
  failed : (∃ u ∈ us, (u.failure? t e.locator).isSome) → Kept c x store .failed ran ∧
    notifications ran.events =
      (us.filterMap (Turn.failure? t e.locator)).map (.pluginFailure t) ++ [.failure t]
  ignored : (∀ u ∈ us, u.failure? t e.locator = none) → (∀ u ∈ us, u.selected t = false) →
    Kept c x store .ignored ran ∧ notifications ran.events = [.ignored t]
  made : (∀ u ∈ us, u.failure? t e.locator = none) → (∃ u ∈ us, u.selected t = true) →
    makings ran.events = [(afterTurns t e.locator e.plugins b world).1] ∧
    Commitment e c x t (afterTurns t e.locator e.plugins b world).1 store ran.result
      (replacements ran.events) (notifications ran.events) ran.store

def foldedEvents (consulted : Bool) (name : String) (t : TypeName) (v : FormatVersion) (l : Locator)
    (us : List (Turn σ B)) (last : List (Event B)) : List (Event B) :=
  openingEvents consulted name t v ++ turnEvents t l 0 us ++ last

section
variable (consulted : Bool) (name : String) (t : TypeName) (v : FormatVersion) (l : Locator)
  (us : List (Turn σ B)) (last : List (Event B))

theorem folded_applications :
    applications (foldedEvents consulted name t v l us last) =
      (us.zipIdx.filter fun (u, _) => u.selected t).map (fun (u, j) => (j, u.builder)) ++
        applications last := by
  simp only [foldedEvents, List.filterMap_append, applications_of_turns]
  cases consulted <;> rfl

theorem folded_failures :
    pluginFailures (foldedEvents consulted name t v l us last) =
      (us.filterMap (Turn.failure? t l)).map (t, ·) ++ pluginFailures last := by
  simp only [foldedEvents, List.filterMap_append, failures_of_turns, openingEvents_failures]
  rfl

theorem folded_notifications :
    notifications (foldedEvents consulted name t v l us last) =
      (us.filterMap (Turn.failure? t l)).map (.pluginFailure t) ++ notifications last := by
  simp only [foldedEvents, notifications_append, notifications_of_turns]
  cases consulted <;> rfl

theorem folded_makings :
    makings (foldedEvents consulted name t v l us last) = makings last := by
  simp only [foldedEvents, List.filterMap_append, makings_of_turns]
  cases consulted <;> rfl

theorem folded_replacements :
    replacements (foldedEvents consulted name t v l us last) = replacements last := by
  simp only [foldedEvents, List.filterMap_append, replacements_of_turns]
  cases consulted <;> rfl

end

namespace Engine
variable [Builder B] (e : Engine ρ σ B) (c : Container S E) (x : E) (t : TypeName) (store : S)

theorem commit_commitment (b : B) :
    let ended := e.commit c x t b store
    makings ended.2.1 = [b] ∧
      Commitment e c x t b store ended.1 (replacements ended.2.1) (notifications ended.2.1)
        ended.2.2 := by
  cases made : Builder.make b with
  | error err =>
    rw [commit_of_unmade e c x t made]
    exact ⟨rfl, .unmade made⟩
  | ok a =>
    cases checked : e.initializerPolicy.check a with
    | error err =>
      rw [commit_of_rejected e c x t made checked]
      exact ⟨rfl, .rejected made checked⟩
    | ok done =>
      rcases replaced : c.replace x a store with ⟨err | done, after⟩
      · rw [commit_of_refused e c x t made checked replaced]
        exact ⟨rfl, .refused made checked replaced⟩
      · rw [commit_of_replaced e c x t made checked replaced]
        exact ⟨rfl, .replaced made checked replaced⟩

/-- A failing plugin keeps an element from being made at all, whatever the policy. -/
theorem process_unmade_of_failing {e : Engine ρ σ B} {c : Container S E} {x : E} {t : TypeName}
    (store : S) {pool pool' : ρ} {world world' : σ} {consulted : Bool} {b : B}
    (resolved : e.pool.describe (c.name x) pool = (⟨some t, consulted⟩, pool'))
    (seeded : e.entryPoint t e.version e.locator world = (.ok b, world'))
    {us vs : List (Turn σ B)} {u : Turn σ B} {f : PluginFailure}
    (laid : turns t e.locator e.plugins b world' = us ++ u :: vs)
    (fine : ∀ v ∈ us, v.failure? t e.locator = none) (failing : u.failure? t e.locator = some f) :
    makings (e.process c x pool world store).events = [] := by
  cases policy : e.failurePolicy with
  | failFast notify =>
    have stopped := applyPlugins_failFast_of_failing t e.locator 0 notify e.plugins
      ⟨b, false, false⟩ world' laid fine failing
    rw [← policy] at stopped
    have unmade := applyPlugins_makings t e.locator 0 e.failurePolicy e.plugins ⟨b, false, false⟩
      world'
    rw [stopped] at unmade
    rw [process_of_stopped resolved seeded stopped, makings_append]
    cases consulted <;> exact unmade
  | proceed =>
    have looped := applyPlugins_proceed t e.locator 0 e.plugins ⟨b, false, false⟩ world'
    rw [← policy] at looped
    have failed : (progressAfter t e.locator e.plugins ⟨b, false, false⟩ world').failed = true :=
      progress_failed_iff.mpr ⟨u, by simp [laid], by simp [failing]⟩
    rw [process_of_folded resolved seeded looped, conclude_of_failed _ c x t _ store failed]
    exact folded_makings consulted (c.name x) t e.version e.locator _ _

/-- A resolved element with a seeded builder is folded over the turns of all plugins. -/
theorem process_folds_turns (pool pool' : ρ) (world world' : σ) (consulted : Bool) (b : B)
    (policy : e.failurePolicy = .proceed)
    (resolved : e.pool.describe (c.name x) pool = (⟨some t, consulted⟩, pool'))
    (seeded : e.entryPoint t e.version e.locator world = (.ok b, world')) :
    Folded e c x t b world' store (turns t e.locator e.plugins b world')
      (e.process c x pool world store) := by
  let us := turns t e.locator e.plugins b world'
  let g := progressAfter t e.locator e.plugins ⟨b, false, false⟩ world'
  let ended := e.conclude c x t g store
  have looped := applyPlugins_proceed t e.locator 0 e.plugins ⟨b, false, false⟩ world'
  rw [← policy] at looped
  have ran : e.process c x pool world store =
      ⟨ended.1, foldedEvents consulted (c.name x) t e.version e.locator us ended.2.1, pool',
        (afterTurns t e.locator e.plugins b world').2, ended.2.2⟩ :=
    process_of_folded resolved seeded looped
  rw [ran]
  constructor
  case laid => rfl
  case everyone => exact turns_plugins t e.locator e.plugins b world'
  case applied => simp only [folded_applications, ended, conclude_applications, List.append_nil, us]
  case reported => simp only [folded_failures, ended, conclude_failures, List.append_nil, us]
  case leftWorld => rfl
  case failed =>
    intro failing
    have failed : g.failed = true := progress_failed_iff.mpr failing
    have last : ended = _ := e.conclude_of_failed c x t g store failed
    rw [folded_notifications, last]
    exact ⟨⟨rfl, folded_makings .., folded_replacements .., rfl⟩, rfl⟩
  case ignored =>
    intro fine passed
    have unfailed : g.failed = false := progress_failed_eq_false fine
    have same : g.transformed = false := by
      rw [← Bool.not_eq_true, progress_transformed_iff fine]
      rintro ⟨u, member, selected⟩
      simp [passed u member] at selected
    have last : ended = _ := e.conclude_of_untransformed c x t g store unfailed same
    rw [folded_notifications, List.filterMap_eq_nil_iff.mpr fine, last]
    exact ⟨⟨rfl, folded_makings .., folded_replacements .., rfl⟩, rfl⟩
  case made =>
    intro fine selected
    have unfailed : g.failed = false := progress_failed_eq_false fine
    have changed : g.transformed = true := (progress_transformed_iff fine).mpr selected
    have last : ended = _ := e.conclude_of_transformed c x t g store unfailed changed
    rw [folded_notifications, List.filterMap_eq_nil_iff.mpr fine, folded_makings,
      folded_replacements, last]
    exact e.commit_commitment c x t store g.builder

end Engine

def rehearsal (type : String) (performers : List Rehearsal.Performer) :
    Engine Unit Rehearsal.Notes Rehearsal.Recorder where
  version := ⟨61, 0⟩
  entryPoint := Rehearsal.Opening.seed {}
  pool := Rehearsal.knownTypes [type]
  locator := .nowhere
  plugins := performers.map (·.toPlugin)
  failurePolicy := .proceed
  initializerPolicy := .reject

/-- A performer that panics when asked, and one that fails, hide nothing from those after them. -/
theorem process_folds_turns_rehearsed :
    let e := rehearsal "stage.Play" [⟨0, "first", .everything, .record⟩,
      ⟨1, "shy", .panics "stage fright", .record⟩, ⟨2, "hoarse", .everything, .fail "no voice"⟩,
      ⟨3, "absent", .these [], .record⟩, ⟨4, "last", .everything, .record⟩]
    let t : TypeName := ⟨"stage.Play"⟩
    let c := Rehearsal.Setting.container ⟨[t.name], none, [], false⟩
    let ran := e.process c t.name () [] {}
    e.failurePolicy = .proceed ∧ e.pool.describe (c.name t.name) () = (⟨some t, true⟩, ()) ∧
      e.entryPoint t e.version e.locator [] = (.ok ⟨t, e.version, [], [], none⟩, []) ∧
      applications ran.events = [(0, ⟨t, e.version, [], [], none⟩),
        (2, ⟨t, e.version, ["first"], [], none⟩), (4, ⟨t, e.version, ["first"], [], none⟩)] ∧
      notifications ran.events = [.pluginFailure t (.panicked "shy" "stage fright"),
        .pluginFailure t (.failed "hoarse" "no voice"), .failure t] := by
  intro e t c ran
  have folded := e.process_folds_turns c t.name t {} () () [] [] true ⟨t, e.version, [], [], none⟩
    rfl rfl rfl
  refine ⟨rfl, rfl, rfl, ?_, ?_⟩
  · rw [folded.applied]
    decide
  · exact (folded.failed (by decide)).2.trans (by decide)

end ClassForge
