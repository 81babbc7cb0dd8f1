import ClassForge.Proofs.ElementFold
import ClassForge.Proofs.FailFast
import ClassForge.Proofs.RunAccounts

/-!
What listeners hear of a run. Of each settled element they hear one block: its outcome alone or,
where the run goes on after a failure, the failures of its plugins and then that it has failed. Of
the element at which a run ends they hear nothing, unless the run fails fast and tells of it.
-/
namespace ClassForge
open List (Forall₂)
variable {ρ σ B S E : Type}

/-- What a pool says of names, one after the other. -/
def TypePool.answers (pool : TypePool ρ) : List String → ρ → List (Option TypeName)
  | [], _ => []
  | name :: names, r =>
    (pool.describe name r).1.type? :: pool.answers names (pool.describe name r).2

inductive Block (policy : FailurePolicy) (name : String) :
    Option TypeName → Outcome → List Notification → Prop where
  | unresolved : Block policy name none .unresolved [.unresolved name]
  | ignored (t : TypeName) : Block policy name (some t) .ignored [.ignored t]
  | success (t : TypeName) : Block policy name (some t) .success [.success t]
  | failed (t : TypeName) (f : PluginFailure) (fs : List PluginFailure)
      (goesOn : policy = .proceed) :
      Block policy name (some t) .failed ((f :: fs).map (.pluginFailure t) ++ [.failure t])

/-- Why an element of a type is given up in a position, and what is heard of it. -/
inductive GivesUp [Builder B] (e : Engine ρ σ B) (c : Container S E) (x : E) (p : Position ρ σ S)
    (t : TypeName) : RunError → List Notification → Prop where
  | unseeded {err : RunError} {world : σ}
      (unseeded : e.entryPoint t e.version e.locator p.world = (.error err, world)) :
      GivesUp e c x p t err []
  | failing {b : B} {world : σ} {us vs : List (Turn σ B)} {u : Turn σ B} {f : PluginFailure}
      {notify : Bool} (fast : e.failurePolicy = .failFast notify)
      (seeded : e.entryPoint t e.version e.locator p.world = (.ok b, world))
      (laid : turns t e.locator e.plugins b world = us ++ u :: vs)
      (fine : ∀ v ∈ us, v.failure? t e.locator = none)
      (failing : u.failure? t e.locator = some f) :
      GivesUp e c x p t (.plugin t.name f) (if notify then [.pluginFailure t f] else [])
  /-- The type is not made, its initializers are refused, or it does not get to its place. -/
  | uncommitted {b : B} {world : σ} {err : RunError} {tried : List (String × Artifact × Bool)}
      {left : S} (seeded : e.entryPoint t e.version e.locator p.world = (.ok b, world))
      (fine : ∀ u ∈ turns t e.locator e.plugins b world, u.failure? t e.locator = none)
      (uncommitted : Commitment e c x t (afterTurns t e.locator e.plugins b world).1 p.store
        (.error err) tried [] left) :
      GivesUp e c x p t err []

inductive Hears [Builder B] (e : Engine ρ σ B) (c : Container S E) (x : E) (p : Position ρ σ S) :
    Option TypeName → Except RunError Outcome → List Notification → Prop where
  | settled {type? : Option TypeName} {o : Outcome} {heard : List Notification}
      (block : Block e.failurePolicy (c.name x) type? o heard) : Hears e c x p type? (.ok o) heard
  | givenUp {t : TypeName} {err : RunError} {heard : List Notification}
      (why : GivesUp e c x p t err heard) : Hears e c x p (some t) (.error err) heard

theorem lookup_notifications (consulted : Bool) (name : String) :
    notifications (lookupEvents consulted name : List (Event B)) = [] := by
  cases consulted <;> rfl

theorem opening_notifications (consulted : Bool) (name : String) (t : TypeName)
    (v : FormatVersion) :
    notifications (openingEvents consulted name t v : List (Event B)) = [] := by
  cases consulted <;> rfl

section
variable [Builder B] {e : Engine ρ σ B} {c : Container S E} {x : E} {t : TypeName} {b : B}
  {store left : S} {tried : List (String × Artifact × Bool)} {heard : List Notification}

theorem commitment_unheard {err : RunError}
    (h : Commitment e c x t b store (.error err) tried heard left) : heard = [] := by
  cases h <;> rfl

theorem commitment_heard {o : Outcome} (h : Commitment e c x t b store (.ok o) tried heard left) :
    o = .success ∧ heard = [.success t] := by
  cases h
  exact ⟨rfl, rfl⟩

end

namespace Engine
variable [Builder B] {e : Engine ρ σ B} {c : Container S E} {x : E} {p : Position ρ σ S}
  {t : TypeName} {pool : ρ} {world : σ} {consulted : Bool} {b : B}
  (resolved : e.pool.describe (c.name x) p.pool = (⟨some t, consulted⟩, pool))
  (seeded : e.entryPoint t e.version e.locator p.world = (.ok b, world))
include resolved seeded

theorem hears_of_fine
    (fine : ∀ u ∈ turns t e.locator e.plugins b world, u.failure? t e.locator = none) :
    let ran := e.process c x p.pool p.world p.store
    Hears e c x p (some t) ran.result (notifications ran.events) := by
  intro ran
  let us := turns t e.locator e.plugins b world
  let g := progressAfter t e.locator e.plugins ⟨b, false, false⟩ world
  let ended := e.conclude c x t g p.store
  have folded : ran = ⟨ended.1,
      foldedEvents consulted (c.name x) t e.version e.locator us ended.2.1, pool,
      (afterTurns t e.locator e.plugins b world).2, ended.2.2⟩ :=
    process_of_folded resolved seeded
      (applyPlugins_of_fine t e.locator 0 e.failurePolicy e.plugins ⟨b, false, false⟩ world fine)
  have unfailed : g.failed = false := progress_failed_eq_false fine
  rw [folded, folded_notifications, List.filterMap_eq_nil_iff.mpr fine, List.map_nil,
    List.nil_append]
  cases changed : g.transformed with
  | false =>
    rw [show ended = _ from conclude_of_untransformed e c x t g p.store unfailed changed]
    exact .settled (.ignored t)
  | true =>
    rw [show ended = _ from conclude_of_transformed e c x t g p.store unfailed changed]
    obtain ⟨-, commitment⟩ := commit_commitment e c x t p.store g.builder
    rcases committed : e.commit c x t g.builder p.store with ⟨err | o, events, left⟩
    all_goals
      rw [committed] at commitment
      dsimp only at commitment ⊢
    · have silent := commitment_unheard commitment
      rw [silent] at commitment ⊢
      exact .givenUp (.uncommitted seeded fine commitment)
    · obtain ⟨rfl, heard⟩ := commitment_heard commitment
      rw [heard]
      exact .settled (.success t)

theorem hears_of_failing {us vs : List (Turn σ B)} {u : Turn σ B} {f : PluginFailure}
    (laid : turns t e.locator e.plugins b world = us ++ u :: vs)
    (fine : ∀ v ∈ us, v.failure? t e.locator = none) (failing : u.failure? t e.locator = some f) :
    let ran := e.process c x p.pool p.world p.store
    Hears e c x p (some t) ran.result (notifications ran.events) := by
  intro ran
  have quiet : us.filterMap (Turn.failure? t e.locator) = [] := List.filterMap_eq_nil_iff.mpr fine
  cases policy : e.failurePolicy with
  | failFast notify =>
    have stopped := applyPlugins_failFast_of_failing t e.locator 0 notify e.plugins
      ⟨b, false, false⟩ world laid fine failing
    rw [← policy, ← announced] at stopped
    rw [show ran = _ from process_of_stopped resolved seeded stopped]
    simp only [notifications_append, opening_notifications, notifications_of_turns, quiet,
      calls_notifications, announced_notifications, List.map_nil, List.nil_append]
    exact .givenUp (.failing policy seeded laid fine failing)
  | proceed =>
    -- The plugins after the failing one have their turn too, and may add failures of their own.
    have looped := applyPlugins_proceed t e.locator 0 e.plugins ⟨b, false, false⟩ world
    rw [← policy] at looped
    have failed : (progressAfter t e.locator e.plugins ⟨b, false, false⟩ world).failed = true :=
      progress_failed_iff.mpr ⟨u, by simp [laid], by simp [failing]⟩
    rw [show ran = _ from process_of_folded resolved seeded looped,
      conclude_of_failed e c x t _ p.store failed]
    have told := folded_notifications consulted (c.name x) t e.version e.locator
      (turns t e.locator e.plugins b world)
      ([.notified (.failure t), .retained (c.name x)] : List (Event B))
    rw [laid, List.filterMap_append, quiet, List.nil_append, List.filterMap_cons_some failing]
      at told
    rw [← laid] at told
    exact told ▸ .settled (.failed t f _ policy)

end Engine

section
variable [Builder B] {e : Engine ρ σ B} {c : Container S E}

theorem Engine.process_hears (e : Engine ρ σ B) (c : Container S E) (x : E) (p : Position ρ σ S) :
    let ran := e.process c x p.pool p.world p.store
    Hears e c x p (e.pool.describe (c.name x) p.pool).1.type? ran.result
      (notifications ran.events) := by
  rcases found : e.pool.describe (c.name x) p.pool with ⟨⟨type?, consulted⟩, pool⟩
  cases type? with
  | none =>
    rw [process_of_unresolved found]
    dsimp only
    rw [notifications_append, lookup_notifications]
    exact .settled .unresolved
  | some t =>
    rcases begun : e.entryPoint t e.version e.locator p.world with ⟨err | b, world⟩
    · rw [process_of_unseeded found begun]
      dsimp only
      rw [opening_notifications]
      exact .givenUp (.unseeded begun)
    · rcases first_failing_turn t e.locator (turns t e.locator e.plugins b world) with
        fine | ⟨us, u, vs, f, laid, fine, failing⟩
      · exact hears_of_fine found begun fine
      · exact hears_of_failing found begun laid fine failing

theorem Hears.block {x : E} {p : Position ρ σ S} {type? : Option TypeName} {o : Outcome}
    {heard : List Notification} (h : Hears e c x p type? (.ok o) heard) :
    Block e.failurePolicy (c.name x) type? o heard := by
  cases h with
  | settled block => exact block

theorem Hears.why {x : E} {p : Position ρ σ S} {type? : Option TypeName} {err : RunError}
    {heard : List Notification} (h : Hears e c x p type? (.error err) heard) :
    ∃ t, type? = some t ∧ GivesUp e c x p t err heard := by
  cases h with
  | givenUp why => exact ⟨_, rfl, why⟩

def Position.handing (c : Container S E) (x : E) (p : Position ρ σ S) : Position ρ σ S :=
  { p with store := c.handOut x p.store }

/-- One block for each visit, with the type that the pool finds when it is asked in turn. -/
def Blocks (e : Engine ρ σ B) (c : Container S E) (visits : List (Visit E B)) (pool : ρ) : Prop :=
  Forall₂ (fun v type? =>
      Block e.failurePolicy (c.name v.element) type? v.outcome (notifications v.events))
    visits (e.pool.answers (visits.map fun v => c.name v.element) pool)

theorem course_blocks {s left : Supply S E} {p q : Position ρ σ S} {visits : List (Visit E B)}
    (h : Course e c s p visits left q) : Blocks e c visits p.pool := by
  induction h with
  | nil s p => exact .nil
  | @cons s rest left p q r v later drawn dealt disposed onward ih =>
    have hears := e.process_hears c v.element (p.handing c v.element)
    -- Only the lookup of an element's name changes the pool, so the answers follow the course.
    have after := e.process_pool c v.element p.pool p.world (c.handOut v.element p.store)
    simp only [Position.handing, dealt] at hears after
    exact .cons hears.block (after ▸ ih)

inductive Finish (e : Engine ρ σ B) (c : Container S E) (s : Supply S E) (p : Position ρ σ S) :
    Except RunError Report → List Notification → Prop where
  | exhausted (report : Report) (drawn : s.draw p.store = none) : Finish e c s p (.ok report) []
  | unreadable {err : RunError} {rest : Supply S E}
      (drawn : s.draw p.store = some (.error err, rest)) : Finish e c s p (.error err) []
  | givenUp {x : E} {rest : Supply S E} {t : TypeName} {err : RunError} {heard : List Notification}
      (drawn : s.draw p.store = some (.ok x, rest))
      (resolved : (e.pool.describe (c.name x) p.pool).1.type? = some t)
      (why : GivesUp e c x (p.handing c x) t err heard) : Finish e c s p (.error err) heard

theorem halt_finish {s : Supply S E} {p : Position ρ σ S} {report : Report}
    {last : Ran ρ σ B S (Except RunError Report)} (h : Halt e c s p report last) :
    Finish e c s p last.result (notifications last.events) := by
  cases h with
  | exhausted drawn => exact .exhausted report drawn
  | unreadable drawn => exact .unreadable drawn
  | @givenUp x rest err events pool world store drawn dealt =>
    have hears := e.process_hears c x (p.handing c x)
    simp only [Position.handing, dealt] at hears
    obtain ⟨t, resolved, why⟩ := hears.why
    exact .givenUp drawn resolved why

omit [Builder B] in
theorem blocks_of_mem {visits : List (Visit E B)} {pool : ρ} (h : Blocks e c visits pool)
    {v : Visit E B} (member : v ∈ visits) :
    ∃ type?, Block e.failurePolicy (c.name v.element) type? v.outcome (notifications v.events) := by
  obtain ⟨i, inside, rfl⟩ := List.mem_iff_getElem.mp member
  exact ⟨_, h.get inside (h.length_eq ▸ inside)⟩

theorem finish_last {s : Supply S E} {p : Position ρ σ S} {processed : Except RunError Report}
    {tail : List Notification} (h : Finish e c s p processed tail) :
    tail = [] ∨ ∃ t f, tail = [.pluginFailure t f] ∧ e.failurePolicy = .failFast true ∧
      processed = .error (.plugin t.name f) := by
  cases h with
  | exhausted => exact .inl rfl
  | unreadable => exact .inl rfl
  | givenUp drawn resolved why =>
    cases why with
    | unseeded => exact .inl rfl
    | uncommitted => exact .inl rfl
    | @failing _ _ _ _ _ f notify fast =>
      cases notify with
      | false => exact .inl rfl
      | true => exact .inr ⟨_, f, rfl, fast, rfl⟩

end

theorem block_apart {policy : FailurePolicy} {name : String} {type? : Option TypeName} {o : Outcome}
    {heard : List Notification} (h : Block policy name type? o heard) {t : TypeName}
    (done : .success t ∈ heard) (t' : TypeName) (f : PluginFailure) :
    .pluginFailure t' f ∉ heard := by
  cases h <;> simp_all

theorem block_goesOn {policy : FailurePolicy} {name : String} {type? : Option TypeName}
    {o : Outcome} {heard : List Notification} (h : Block policy name type? o heard) {t : TypeName}
    (failed : .failure t ∈ heard) : policy = .proceed := by
  cases h <;> simp_all

/-- What listeners hear of a run: a block for each visit, in the order of the source, and `tail`. -/
structure HeardInBlocks [Builder B] (e : Engine ρ σ B) (source : Source S E) (pool : ρ) (world : σ)
    (visits : List (Visit E B)) (tail : List Notification)
    (ran : Ran ρ σ B S (Except RunError Report)) : Prop where
  blocks : Blocks e source.container visits pool
  heard : notifications ran.events = visits.flatMap (fun v => notifications v.events) ++ tail
  ending : ∃ q left processed closing,
    Course e source.container source.pending ⟨pool, world, source.store⟩ visits left q ∧
    TakesFirst source.pending visits left ∧
    Finish e source.container left q processed tail ∧
    ran.result = closingResult processed closing
  last : tail = [] ∨ ∃ t f, tail = [.pluginFailure t f] ∧ e.failurePolicy = .failFast true ∧
    ran.result = .error (.plugin t.name f)
  /-- That a type has failed is only heard of runs that go on. -/
  unfailed : ∀ t, .failure t ∈ notifications ran.events → e.failurePolicy = .proceed
  apart : ∀ v ∈ visits, ∀ t t' f, .success t ∈ notifications v.events →
    .pluginFailure t' f ∉ notifications v.events

theorem visitLogs_notifications (c : Container S E) (visits : List (Visit E B)) :
    notifications (visitLogs c visits) = visits.flatMap fun v => notifications v.events := by
  induction visits with
  | nil => rfl
  | cons v visits ih =>
    rw [visitLogs_cons, notifications_append, ih]
    rfl

theorem close_notifications (c : Container S E) (visits : List (Visit E B))
    (last : Ran ρ σ B S (Except RunError Report)) :
    notifications (Ran.close c { last with events := visitLogs c visits ++ last.events }).events =
      visits.flatMap (fun v => notifications v.events) ++ notifications last.events := by
  simp only [Ran.close, notifications_append, visitLogs_notifications]
  exact List.append_nil _

/-- Every run is heard in blocks, whatever plugins and policies do and wherever it ends. -/
theorem run_heard_in_blocks [Builder B] (e : Engine ρ σ B) (source : Source S E) (pool : ρ)
    (world : σ) :
    ∃ visits tail, HeardInBlocks e source pool world visits tail (e.run source pool world) := by
  obtain ⟨visits, q, left, last, course, halt, ran⟩ := run_course e source pool world
  have blocks := course_blocks course
  have first := stored_takesFirst (course_settled course).2
  have finish := halt_finish halt
  have heard : notifications (e.run source pool world).events =
      visits.flatMap (fun v => notifications v.events) ++ notifications last.events := by
    rw [ran, close_notifications]
  have result : (e.run source pool world).result =
      closingResult last.result (source.container.close last.store).1 := by
    rw [ran]
    rfl
  have tailed := finish_last finish
  refine ⟨visits, notifications last.events, blocks, heard,
    ⟨q, left, last.result, _, course, first, finish, result⟩, ?_, ?_, ?_⟩
  · rcases tailed with none | ⟨t, f, told, fast, stopped⟩
    · exact .inl none
    · refine .inr ⟨t, f, told, fast, ?_⟩
      rw [result, stopped]
      rfl
  · intro t failed
    rw [heard, List.mem_append, List.mem_flatMap] at failed
    rcases failed with ⟨v, member, failed⟩ | after
    · obtain ⟨type?, block⟩ := blocks_of_mem blocks member
      exact block_goesOn block failed
    · rcases tailed with none | ⟨t', f, only, -⟩
      · simp [none] at after
      · simp [only] at after
  · intro v member t t' f done
    obtain ⟨type?, block⟩ := blocks_of_mem blocks member
    exact block_apart block done t' f

end ClassForge
