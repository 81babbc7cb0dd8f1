import ClassForge.Proofs.ElementFold

/-!
The engine's loop over the plugins, beside their compound. The loop gives every plugin its turn, and
tells failures by its policy; the compound answers for all of them and stops at the first failure.
Where a compound neither panics nor depends on what its members keep between calls, both come to the
same end.
-/
namespace ClassForge
variable {ρ σ B S E : Type}

/-- A plugin that never panics, and whose answers depend on nothing but what it is given. -/
structure Plugin.Steady (p : Plugin σ B) : Prop where
  selects : ∀ t, ∃ answer, ∀ s, (p.selects t s).1 = .returned answer
  applies : ∀ b t l, ∃ response, ∀ s, (p.apply b t l s).1 = .returned response

theorem Plugin.noop_steady : (Plugin.noop : Plugin σ B).Steady :=
  ⟨fun _ => ⟨false, fun _ => rfl⟩, fun _ _ _ => ⟨.error .nonOperational, fun _ => rfl⟩⟩

namespace Compound

theorem anySelects_append (t : TypeName) (ps qs : List (Plugin σ B)) (s : σ) :
    anySelects t (ps ++ qs) s =
      match anySelects t ps s with
      | (.returned false, s) => anySelects t qs s
      | other => other := by
  induction ps generalizing s with
  | nil => rfl
  | cons p ps ih =>
    rw [List.cons_append, anySelects, anySelects]
    rcases p.selects t s with ⟨(_ | _) | m, after⟩
    · exact ih after
    · rfl
    · rfl

theorem applyInTurn_append (t : TypeName) (l : Locator) (ps qs : List (Plugin σ B)) (b : B)
    (s : σ) :
    applyInTurn t l (ps ++ qs) b s =
      match applyInTurn t l ps b s with
      | (.returned (.ok b), s) => applyInTurn t l qs b s
      | other => other := by
  induction ps generalizing b s with
  | nil => rfl
  | cons p ps ih =>
    rw [List.cons_append, applyInTurn, applyInTurn]
    rcases p.selects t s with ⟨(_ | _) | m, after⟩
    · exact ih b after
    · rcases response : p.apply b t l after with ⟨(f | b') | m, last⟩
      · simp only [response]
      · simpa only [response] using ih b' last
      · simp only [response]
    · rfl

end Compound

namespace PluginTree

theorem anySelects_flatten (t : TypeName) (tree : PluginTree σ B) (s : σ) :
    Compound.anySelects t tree.flatten s = tree.toPlugin.selects t s := by
  cases tree with
  | noop => rfl
  | single p =>
    rw [flatten, toPlugin, Compound.anySelects]
    rcases p.selects t s with ⟨(_ | _) | m, after⟩ <;> rfl
  | compound members => rfl

theorem flatten_applies {tree : PluginTree σ B} (steady : tree.toPlugin.Steady) (b : B)
    (t : TypeName) (l : Locator) :
    ∃ response, ∀ s, (Compound.applyInTurn t l tree.flatten b s).1 = .returned response := by
  cases tree with
  | noop => exact ⟨.ok b, fun _ => rfl⟩
  | compound members => exact steady.applies b t l
  | single p =>
    obtain ⟨answer, answers⟩ := steady.selects t
    obtain ⟨response, responds⟩ := steady.applies b t l
    refine ⟨if answer then response else .ok b, fun s => ?_⟩
    have asked : p.selects t s = (.returned answer, (p.selects t s).2) := Prod.ext (answers s) rfl
    rw [flatten, Compound.applyInTurn, asked]
    cases answer with
    | false => rfl
    | true =>
      have applied : p.apply b t l (p.selects t s).2 = (.returned response, _) :=
        Prod.ext (responds (p.selects t s).2) rfl
      dsimp only
      rw [applied]
      cases response <;> rfl

end PluginTree

namespace Compound

theorem steady_of_members {trees : List (PluginTree σ B)}
    (steady : ∀ tree ∈ trees, tree.toPlugin.Steady) : (ofTrees trees).toPlugin.Steady := by
  induction trees with
  | nil => exact ⟨fun _ => ⟨false, fun _ => rfl⟩, fun b _ _ => ⟨.ok b, fun _ => rfl⟩⟩
  | cons tree trees ih =>
    obtain ⟨first, rest⟩ := List.forall_mem_cons.mp steady
    constructor
    case selects =>
      intro t
      obtain ⟨answer, answers⟩ := first.selects t
      obtain ⟨later, laters⟩ := (ih rest).selects t
      refine ⟨answer || later, fun s => ?_⟩
      have asked : anySelects t tree.flatten s = (.returned answer, _) :=
        (tree.anySelects_flatten t s).trans (Prod.ext (answers s) rfl)
      change (anySelects t (tree.flatten ++ PluginTree.flattenAll trees) s).1 = _
      rw [anySelects_append, asked]
      cases answer with
      | false => exact laters _
      | true => rfl
    case applies =>
      intro b t l
      obtain ⟨response, responds⟩ := PluginTree.flatten_applies first b t l
      have applied : ∀ s, applyInTurn t l tree.flatten b s = (.returned response, _) :=
        fun s => Prod.ext (responds s) rfl
      have joined : ∀ s, (ofTrees (tree :: trees)).toPlugin.apply b t l s = _ :=
        applyInTurn_append t l tree.flatten (PluginTree.flattenAll trees) b
      cases response with
      | error f => exact ⟨.error f, fun s => by rw [joined, applied]⟩
      | ok b' =>
        obtain ⟨later, laters⟩ := (ih rest).applies b' t l
        exact ⟨later, fun s => by rw [joined, applied]; exact laters _⟩

end Compound

section
variable {t : TypeName} {l : Locator} {p : Plugin σ B} {ps : List (Plugin σ B)} {b : B} {s : σ}

theorem anySelects_of_selected (selected : Turn.selected t ⟨p, b, s⟩ = true) :
    (Compound.anySelects t (p :: ps) s).1 = .returned true := by
  rw [Compound.anySelects]
  rcases answer : p.selects t s with ⟨(_ | _) | m, after⟩
  · simp [Turn.selected, Turn.answer, answer] at selected
  · rfl
  · simp [Turn.selected, Turn.answer, answer] at selected

theorem anySelects_of_passed (fine : Turn.failure? t l ⟨p, b, s⟩ = none)
    (passed : Turn.selected t ⟨p, b, s⟩ = false) :
    Compound.anySelects t (p :: ps) s =
      Compound.anySelects t ps (Turn.worldAfter t l ⟨p, b, s⟩) := by
  rw [Compound.anySelects]
  rcases answer : p.selects t s with ⟨(_ | _) | m, after⟩
  · simp [Turn.worldAfter, Turn.selected, Turn.answer, answer]
  · simp [Turn.selected, Turn.answer, answer] at passed
  · simp [Turn.failure?, Turn.answer, answer] at fine

theorem anySelects_of_panicked {f : PluginFailure}
    (failing : Turn.failure? t l ⟨p, b, s⟩ = some f)
    (unselected : Turn.selected t ⟨p, b, s⟩ = false) :
    ∃ m, (Compound.anySelects t (p :: ps) s).1 = .panicked m := by
  rw [Compound.anySelects]
  rcases answer : p.selects t s with ⟨(_ | _) | m, after⟩
  · simp [Turn.failure?, Turn.answer, answer] at failing
  · simp [Turn.selected, Turn.answer, answer] at unselected
  · exact ⟨m, rfl⟩

theorem anySelects_of_fine (fine : ∀ u ∈ turns t l ps b s, u.failure? t l = none) :
    (Compound.anySelects t ps s).1 = .returned ((turns t l ps b s).any (Turn.selected t)) := by
  induction ps generalizing b s with
  | nil => rfl
  | cons p ps ih =>
    obtain ⟨first, rest⟩ := List.forall_mem_cons.mp fine
    rw [turns, List.any_cons]
    cases selected : Turn.selected t ⟨p, b, s⟩ with
    | true => exact anySelects_of_selected selected
    | false =>
      rw [anySelects_of_passed first selected, ih rest]
      rfl

/-- A member that fails was selected, unless it panicked as it was asked. -/
theorem anySelects_of_failing {us vs : List (Turn σ B)} {u : Turn σ B} {f : PluginFailure}
    (laid : turns t l ps b s = us ++ u :: vs) (fine : ∀ v ∈ us, v.failure? t l = none)
    (failing : u.failure? t l = some f) :
    (Compound.anySelects t ps s).1 = .returned true ∨
      ∃ m, (Compound.anySelects t ps s).1 = .panicked m := by
  induction ps generalizing b s us with
  | nil => simp [turns] at laid
  | cons p ps ih =>
    rw [turns] at laid
    cases selected : Turn.selected t ⟨p, b, s⟩ with
    | true => exact Or.inl (anySelects_of_selected selected)
    | false =>
      cases us with
      | nil =>
        obtain ⟨rfl, _⟩ := List.cons.inj laid
        exact Or.inr (anySelects_of_panicked failing selected)
      | cons v us =>
        obtain ⟨rfl, later⟩ := List.cons.inj laid
        obtain ⟨first, rest⟩ := List.forall_mem_cons.mp fine
        rw [anySelects_of_passed first selected]
        exact ih later rest

theorem applyInTurn_of_fine_turn (fine : Turn.failure? t l ⟨p, b, s⟩ = none) :
    Compound.applyInTurn t l (p :: ps) b s = Compound.applyInTurn t l ps
      (Turn.builderAfter t l ⟨p, b, s⟩) (Turn.worldAfter t l ⟨p, b, s⟩) := by
  rw [Compound.applyInTurn]
  rcases answer : p.selects t s with ⟨(_ | _) | m, after⟩
  · simp [Turn.builderAfter, Turn.worldAfter, Turn.selected, Turn.answer, answer]
  · rcases response : p.apply b t l after with ⟨(f | b') | m, last⟩
    · simp [Turn.failure?, Turn.answer, Turn.response, answer, response] at fine
    · simp [Turn.builderAfter, Turn.worldAfter, Turn.selected, Turn.answer, Turn.response, answer,
        response]
    · simp [Turn.failure?, Turn.answer, Turn.response, answer, response] at fine
  · simp [Turn.failure?, Turn.answer, answer] at fine

theorem applyInTurn_of_failing_turn {f : PluginFailure}
    (failing : Turn.failure? t l ⟨p, b, s⟩ = some f) :
    (Compound.applyInTurn t l (p :: ps) b s).1 = .returned (.error f) ∨
      ∃ m, (Compound.applyInTurn t l (p :: ps) b s).1 = .panicked m := by
  rw [Compound.applyInTurn]
  rcases answer : p.selects t s with ⟨(_ | _) | m, after⟩
  · simp [Turn.failure?, Turn.answer, answer] at failing
  · rcases response : p.apply b t l after with ⟨(f' | b') | m, last⟩ <;>
      simp [Turn.failure?, Turn.answer, Turn.response, answer, response] at failing
    · exact Or.inl (by simp [response, failing])
    · exact Or.inr ⟨m, by simp [response]⟩
  · exact Or.inr ⟨m, rfl⟩

theorem applyInTurn_of_fine (fine : ∀ u ∈ turns t l ps b s, u.failure? t l = none) :
    (Compound.applyInTurn t l ps b s).1 = .returned (.ok (afterTurns t l ps b s).1) := by
  induction ps generalizing b s with
  | nil => rfl
  | cons p ps ih =>
    obtain ⟨first, rest⟩ := List.forall_mem_cons.mp fine
    rw [applyInTurn_of_fine_turn first, ih rest, afterTurns]

theorem applyInTurn_of_failing {us vs : List (Turn σ B)} {u : Turn σ B} {f : PluginFailure}
    (laid : turns t l ps b s = us ++ u :: vs) (fine : ∀ v ∈ us, v.failure? t l = none)
    (failing : u.failure? t l = some f) :
    (Compound.applyInTurn t l ps b s).1 = .returned (.error f) ∨
      ∃ m, (Compound.applyInTurn t l ps b s).1 = .panicked m := by
  induction ps generalizing b s us with
  | nil => simp [turns] at laid
  | cons p ps ih =>
    rw [turns] at laid
    cases us with
    | nil =>
      obtain ⟨rfl, _⟩ := List.cons.inj laid
      exact applyInTurn_of_failing_turn failing
    | cons v us =>
      obtain ⟨rfl, later⟩ := List.cons.inj laid
      obtain ⟨first, rest⟩ := List.forall_mem_cons.mp fine
      rw [applyInTurn_of_fine_turn first]
      exact ih later rest

end

structure AgreesWith (policy : FailurePolicy) (t : TypeName) (answer : Bool)
    (response : Except PluginFailure B) (ran : Ran ρ σ B S (Except RunError Outcome)) : Prop where
  ignored_iff : ran.result = .ok .ignored ↔ answer = false
  made_iff : answer = true → (makings ran.events ≠ [] ↔ ∃ b, response = .ok b)
  made : answer = true → ∀ b, response = .ok b → makings ran.events = [b]
  stopped : ∀ f, response = .error f → ∀ notify, policy = .failFast notify →
    ran.result = .error (.plugin t.name f)
  failed : ∀ f, response = .error f → policy = .proceed →
    ran.result = .ok .failed ∧ (pluginFailures ran.events).head? = some (t, f)

variable [Builder B]

theorem commitment_unignored {e : Engine ρ σ B} {c : Container S E} {x : E} {t : TypeName} {b : B}
    {store after : S} {result : Except RunError Outcome} {tried : List (String × Artifact × Bool)}
    {heard : List Notification} (h : Commitment e c x t b store result tried heard after) :
    result ≠ .ok .ignored := by
  cases h <;> simp

namespace Engine

section
variable {e : Engine ρ σ B} {c : Container S E} {x : E} {pool pool' : ρ} {world world' : σ}
  (store : S) {t : TypeName} {consulted : Bool} {b : B}
  (resolved : e.pool.describe (c.name x) pool = (⟨some t, consulted⟩, pool'))
  (seeded : e.entryPoint t e.version e.locator world = (.ok b, world'))
include resolved seeded

theorem agrees_of_fine
    (fine : ∀ u ∈ turns t e.locator e.plugins b world', u.failure? t e.locator = none) :
    AgreesWith e.failurePolicy t ((turns t e.locator e.plugins b world').any (Turn.selected t))
      (.ok (afterTurns t e.locator e.plugins b world').1) (e.process c x pool world store) := by
  let us := turns t e.locator e.plugins b world'
  let g := progressAfter t e.locator e.plugins ⟨b, false, false⟩ world'
  let ended := e.conclude c x t g store
  have ran : e.process c x pool world store =
      ⟨ended.1, foldedEvents consulted (c.name x) t e.version e.locator us ended.2.1, pool',
        (afterTurns t e.locator e.plugins b world').2, ended.2.2⟩ :=
    process_of_folded resolved seeded (applyPlugins_of_fine t e.locator 0 e.failurePolicy e.plugins
      ⟨b, false, false⟩ world' fine)
  have unfailed : g.failed = false := progress_failed_eq_false fine
  have changed : g.transformed = us.any (Turn.selected t) := by
    rw [Bool.eq_iff_iff, progress_transformed_iff fine, List.any_eq_true]
  rw [ran]
  cases selected : us.any (Turn.selected t) with
  | false =>
    have last : ended = _ :=
      e.conclude_of_untransformed c x t g store unfailed (changed.trans selected)
    constructor <;> simp [last]
  | true =>
    have last : ended = e.commit c x t g.builder store :=
      e.conclude_of_transformed c x t g store unfailed (changed.trans selected)
    obtain ⟨made, commitment⟩ := e.commit_commitment c x t store g.builder
    have reached : makings (foldedEvents consulted (c.name x) t e.version e.locator us ended.2.1) =
        [(afterTurns t e.locator e.plugins b world').1] := by
      rw [folded_makings, last]
      exact made
    constructor
    case ignored_iff => simpa [last] using commitment_unignored commitment
    all_goals simp [reached]

theorem agrees_of_failing {us vs : List (Turn σ B)} {u : Turn σ B} {f : PluginFailure}
    (laid : turns t e.locator e.plugins b world' = us ++ u :: vs)
    (fine : ∀ v ∈ us, v.failure? t e.locator = none) (failing : u.failure? t e.locator = some f) :
    AgreesWith e.failurePolicy t true (.error f) (e.process c x pool world store) := by
  have quiet := process_unmade_of_failing store resolved seeded laid fine failing
  cases policy : e.failurePolicy with
  | failFast notify =>
    have stopped := applyPlugins_failFast_of_failing t e.locator 0 notify e.plugins
      ⟨b, false, false⟩ world' laid fine failing
    rw [← policy] at stopped
    have result : (e.process c x pool world store).result = .error (.plugin t.name f) := by
      rw [process_of_stopped resolved seeded stopped]
    constructor <;> simp [quiet, result]
  | proceed =>
    let g := progressAfter t e.locator e.plugins ⟨b, false, false⟩ world'
    let ended := e.conclude c x t g store
    have looped := applyPlugins_proceed t e.locator 0 e.plugins ⟨b, false, false⟩ world'
    rw [← policy] at looped
    have failed : g.failed = true :=
      progress_failed_iff.mpr ⟨u, by simp [laid], by simp [failing]⟩
    have last : ended = _ := e.conclude_of_failed c x t g store failed
    have ran : e.process c x pool world store =
        ⟨ended.1, foldedEvents consulted (c.name x) t e.version e.locator (us ++ u :: vs) ended.2.1,
          pool', (afterTurns t e.locator e.plugins b world').2, ended.2.2⟩ := by
      rw [← laid]
      exact process_of_folded resolved seeded looped
    have first : (pluginFailures (e.process c x pool world store).events).head? = some (t, f) := by
      rw [ran, folded_failures, List.filterMap_append, List.filterMap_eq_nil_iff.mpr fine,
        List.filterMap_cons_some failing]
      rfl
    have result : (e.process c x pool world store).result = .ok .failed := by rw [ran, last]
    constructor <;> simp [quiet, first, result]

end

/-- The engine's loop over flattened plugins and their compound, asked and applied at any time,
agree on what becomes of a resolved element. -/
theorem process_agrees_with_compound (e : Engine ρ σ B) (c : Container S E) (x : E) (pool pool' : ρ)
    (world world' asked applied : σ) (store : S) (t : TypeName) (consulted : Bool) (b : B)
    (trees : List (PluginTree σ B)) (composed : e.plugins = (Compound.ofTrees trees).plugins)
    (steady : ∀ tree ∈ trees, tree.toPlugin.Steady)
    (resolved : e.pool.describe (c.name x) pool = (⟨some t, consulted⟩, pool'))
    (seeded : e.entryPoint t e.version e.locator world = (.ok b, world')) :
    let compound := (Compound.ofTrees trees).toPlugin
    ∃ answer response, (compound.selects t asked).1 = .returned answer ∧
      (compound.apply b t e.locator applied).1 = .returned response ∧
      AgreesWith e.failurePolicy t answer response (e.process c x pool world store) := by
  intro compound
  have whole : compound.Steady := Compound.steady_of_members steady
  obtain ⟨answer, answers⟩ := whole.selects t
  obtain ⟨response, responds⟩ := whole.applies b t e.locator
  refine ⟨answer, response, answers asked, responds applied, ?_⟩
  -- The engine's turns start from the state after seeding, so the compound is asked there, too.
  have answered : (Compound.anySelects t e.plugins world').1 = .returned answer := by
    rw [composed]
    exact answers world'
  have responded :
      (Compound.applyInTurn t e.locator e.plugins b world').1 = .returned response := by
    rw [composed]
    exact responds world'
  rcases first_failing_turn t e.locator (turns t e.locator e.plugins b world') with
    fine | ⟨us, u, vs, f, laid, fine, failing⟩
  · rw [anySelects_of_fine fine] at answered
    rw [applyInTurn_of_fine fine] at responded
    obtain rfl := Call.returned.inj answered
    obtain rfl := Call.returned.inj responded
    exact agrees_of_fine store resolved seeded fine
  · obtain selected | ⟨m, panicked⟩ := anySelects_of_failing laid fine failing
    · obtain refused | ⟨m, panicked⟩ := applyInTurn_of_failing laid fine failing
      · rw [selected] at answered
        rw [refused] at responded
        obtain rfl := Call.returned.inj answered
        obtain rfl := Call.returned.inj responded
        exact agrees_of_failing store resolved seeded laid fine failing
      · simp [panicked] at responded
    · simp [panicked] at answered

end Engine

theorem Rehearsal.performer_steady {number : Nat} {name : String} {act : Rehearsal.Act}
    (calm : ∀ b t l, ∃ response, act.perform name b t l = .returned response) :
    (Performer.toPlugin ⟨number, name, .everything, act⟩).Steady := by
  refine ⟨fun t => ⟨true, fun _ => rfl⟩, fun b t l => ?_⟩
  obtain ⟨response, performed⟩ := calm b t l
  exact ⟨response, fun _ => performed⟩

/-- The failure of a member of a nested compound is the first that is told, and the compound's. -/
theorem process_agrees_with_compound_rehearsed :
    let first : Rehearsal.Performer := ⟨0, "first", .everything, .record⟩
    let hoarse : Rehearsal.Performer := ⟨1, "hoarse", .everything, .fail "no voice"⟩
    let last : Rehearsal.Performer := ⟨2, "last", .everything, .fail "no time"⟩
    let trees : List (PluginTree Rehearsal.Notes Rehearsal.Recorder) := [.single first.toPlugin,
      .compound [.single hoarse.toPlugin, .noop, .single last.toPlugin]]
    let e := rehearsal "stage.Play" [first, hoarse, last]
    let t : TypeName := ⟨"stage.Play"⟩
    let c := Rehearsal.Setting.container ⟨[t.name], none, [], false⟩
    let ran := e.process c t.name () [] {}
    e.plugins = (Compound.ofTrees trees).plugins ∧
      (∀ tree ∈ trees, tree.toPlugin.Steady) ∧
      e.pool.describe (c.name t.name) () = (⟨some t, true⟩, ()) ∧
      e.entryPoint t e.version e.locator [] = (.ok ⟨t, e.version, [], [], none⟩, []) ∧
      ran.result = .ok .failed ∧
      (pluginFailures ran.events).head? = some (t, .failed "hoarse" "no voice") := by
  intro first hoarse last trees e t c ran
  have firstSteady : first.toPlugin.Steady :=
    Rehearsal.performer_steady fun b _ _ => ⟨.ok (b.record "first"), rfl⟩
  have hoarseSteady : hoarse.toPlugin.Steady :=
    Rehearsal.performer_steady fun _ _ _ => ⟨.error (.failed "hoarse" "no voice"), rfl⟩
  have lastSteady : last.toPlugin.Steady :=
    Rehearsal.performer_steady fun _ _ _ => ⟨.error (.failed "last" "no time"), rfl⟩
  have nested : ∀ tree ∈ [PluginTree.single hoarse.toPlugin, .noop, .single last.toPlugin],
      tree.toPlugin.Steady :=
    List.forall_mem_cons.mpr ⟨hoarseSteady,
      List.forall_mem_cons.mpr ⟨Plugin.noop_steady, List.forall_mem_singleton.mpr lastSteady⟩⟩
  have steady : ∀ tree ∈ trees, tree.toPlugin.Steady :=
    List.forall_mem_cons.mpr ⟨firstSteady,
      List.forall_mem_singleton.mpr (Compound.steady_of_members nested)⟩
  obtain ⟨answer, response, -, responded, agrees⟩ :=
    e.process_agrees_with_compound c t.name () () [] [] [] [] {} t true
      ⟨t, e.version, [], [], none⟩ trees rfl steady rfl rfl
  obtain rfl : .error (.failed "hoarse" "no voice") = response := Call.returned.inj responded
  exact ⟨rfl, steady, rfl, rfl, agrees.failed _ rfl rfl⟩

end ClassForge
