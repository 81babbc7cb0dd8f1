import ClassForge.Proofs.ElementFold
import ClassForge.Proofs.RememberedTypes
import ClassForge.Proofs.RunAccounts
import ClassForge.Source.Memory

/-!
Engines that differ in their pools alone. Where the pools answer alike, whatever they keep, each
element comes to the same, and so do whole runs, but for the look-ups among their events. A pool
that remembers its answers is such a pool, after any runs before.
-/
namespace ClassForge
variable {ρ ρ' σ B S E α : Type}

/-- The answers are the same, and stay so after every look-up. -/
structure TypePool.AnswersLike (pool : TypePool ρ) (pool' : TypePool ρ') (related : ρ → ρ' → Prop) :
    Prop where
  answer {r : ρ} {r' : ρ'} (name : String) :
    related r r' → (pool.describe name r).1.type? = (pool'.describe name r').1.type?
  onward {r : ρ} {r' : ρ'} (name : String) :
    related r r' → related (pool.describe name r).2 (pool'.describe name r').2

theorem TypePool.answersLike_cached {inner : TypePool ρ} {f : String → Option TypeName}
    (byName : inner.AnswersBy f) :
    inner.AnswersLike (.cached inner) fun _ state => Remembers f state.2 where
  answer := by
    intro r state name remembers
    obtain ⟨consulted, _, _, found, -⟩ := cached_describe byName remembers state.1 name
    rw [show state = (state.1, state.2) from rfl, found, byName]
  onward := by
    intro r state name remembers
    obtain ⟨consulted, _, _, found, kept⟩ := cached_describe byName remembers state.1 name
    rwa [show state = (state.1, state.2) from rfl, found]

def Event.isLookup : Event B → Bool
  | .described _ => true
  | _ => false

def apartFromLookups (events : List (Event B)) : List (Event B) := events.filter (!·.isLookup)

theorem apartFromLookups_append (before after : List (Event B)) :
    apartFromLookups (before ++ after) = apartFromLookups before ++ apartFromLookups after :=
  List.filter_append ..

theorem apartFromLookups_lookup (consulted : Bool) (name : String) :
    apartFromLookups (lookupEvents consulted name : List (Event B)) = [] := by
  cases consulted <;> rfl

theorem apartFromLookups_opening (consulted : Bool) (name : String) (t : TypeName)
    (v : FormatVersion) :
    apartFromLookups (openingEvents consulted name t v : List (Event B)) = [.seeded t v] := by
  rw [openingEvents, apartFromLookups_append, apartFromLookups_lookup]
  rfl

theorem filterMap_apartFromLookups (select : Event B → Option α)
    (ignores : ∀ name, select (.described name) = none) (events : List (Event B)) :
    (apartFromLookups events).filterMap select = events.filterMap select := by
  rw [apartFromLookups, List.filterMap_filter]
  refine congrArg (List.filterMap · events) (funext fun ev => ?_)
  cases ev <;> simp [Event.isLookup, ignores]

structure Ran.SameButLookups (ran : Ran ρ σ B S α) (ran' : Ran ρ' σ B S α) : Prop where
  result : ran.result = ran'.result
  events : apartFromLookups ran.events = apartFromLookups ran'.events
  world : ran.world = ran'.world
  store : ran.store = ran'.store

theorem Ran.SameButLookups.account {ran : Ran ρ σ B S α} {ran' : Ran ρ' σ B S α}
    (same : ran.SameButLookups ran') : ran.account = ran'.account := by
  have seen {β : Type} (select : Event B → Option β)
      (ignores : ∀ name, select (.described name) = none) :
      ran.events.filterMap select = ran'.events.filterMap select := by
    rw [← filterMap_apartFromLookups select ignores ran.events, same.events,
      filterMap_apartFromLookups select ignores]
  have heard := seen Event.notification? fun _ => rfl
  have disposed := seen Event.disposal? fun _ => rfl
  simp only [Ran.account, notifications, same.result, heard, disposed]

theorem Ran.SameButLookups.close {ran : Ran ρ σ B S (Except RunError Report)}
    {ran' : Ran ρ' σ B S (Except RunError Report)} (same : ran.SameButLookups ran')
    (c : Container S E) : (ran.close c).SameButLookups (ran'.close c) where
  result := by rw [Ran.close, Ran.close, same.result, same.store]
  events := by
    simp only [Ran.close, apartFromLookups_append, same.events]
  world := same.world
  store := by simp only [Ran.close, same.store]

namespace Engine

def withPool (e : Engine ρ σ B) (pool : TypePool ρ') : Engine ρ' σ B where
  version := e.version
  entryPoint := e.entryPoint
  pool := pool
  locator := e.locator
  plugins := e.plugins
  failurePolicy := e.failurePolicy
  initializerPolicy := e.initializerPolicy

variable [Builder B]

section
variable {e : Engine ρ σ B} {pool' : TypePool ρ'} {related : ρ → ρ' → Prop}
  (alike : e.pool.AnswersLike pool' related) {c : Container S E} {r : ρ} {r' : ρ'}
  (h : related r r')
include alike h

theorem process_sameButLookups (x : E) (world : σ) (store : S) :
    (e.process c x r world store).SameButLookups
      ((e.withPool pool').process c x r' world store) := by
  have answer := alike.answer (c.name x) h
  rcases found : e.pool.describe (c.name x) r with ⟨⟨type?, consulted⟩, after⟩
  rcases found' : pool'.describe (c.name x) r' with ⟨⟨type?', consulted'⟩, after'⟩
  rw [found, found'] at answer
  obtain rfl : type? = type?' := answer
  cases type? with
  | none =>
    rw [process_of_unresolved found, process_of_unresolved (e := e.withPool pool') found']
    refine ⟨rfl, ?_, rfl, rfl⟩
    simp only [apartFromLookups_append, apartFromLookups_lookup]
  | some t =>
    rcases begun : e.entryPoint t e.version e.locator world with ⟨err | b, begin⟩
    · rw [process_of_unseeded found begun, process_of_unseeded (e := e.withPool pool') found' begun]
      refine ⟨rfl, ?_, rfl, rfl⟩
      exact (apartFromLookups_opening ..).trans (apartFromLookups_opening ..).symm
    · rcases turned : applyPlugins e.failurePolicy e.locator t 0 e.plugins ⟨b, false, false⟩ begin
        with ⟨err | g, events, last⟩
      · rw [process_of_stopped found begun turned,
          process_of_stopped (e := e.withPool pool') found' begun turned]
        refine ⟨rfl, ?_, rfl, rfl⟩
        simp only [apartFromLookups_append, apartFromLookups_opening]
        rfl
      · rw [process_of_folded found begun turned,
          process_of_folded (e := e.withPool pool') found' begun turned]
        refine ⟨rfl, ?_, rfl, rfl⟩
        simp only [apartFromLookups_append, apartFromLookups_opening]
        rfl

theorem processAll_sameButLookups (pending : Supply S E) (report : Report) (world : σ) (store : S) :
    (e.processAll c pending report r world store).SameButLookups
      ((e.withPool pool').processAll c pending report r' world store) := by
  -- What the pools keep is generalized, for either may change with every look-up.
  induction pending using Supply.draw_induction generalizing report r r' world store with
  | step pending ih =>
    rcases drawn : pending.draw store with _ | ⟨err | x, rest⟩
    · rw [processAll_of_exhausted report drawn, processAll_of_exhausted report drawn]
      exact ⟨rfl, rfl, rfl, rfl⟩
    · rw [processAll_of_unreadable report drawn, processAll_of_unreadable report drawn]
      exact ⟨rfl, rfl, rfl, rfl⟩
    · have same := process_sameButLookups alike h (c := c) x world (c.handOut x store)
      have kept := e.process_pool c x r world (c.handOut x store)
      have kept' := (e.withPool pool').process_pool c x r' world (c.handOut x store)
      rcases dealt : e.process c x r world (c.handOut x store) with ⟨result, events, p, w, s⟩
      rcases dealt' : (e.withPool pool').process c x r' world (c.handOut x store)
        with ⟨_, events', p', _, _⟩
      rw [dealt, dealt'] at same
      rw [dealt] at kept
      rw [dealt'] at kept'
      obtain ⟨rfl, told, rfl, rfl⟩ := same
      cases result with
      | error err =>
        rw [processAll_of_givenUp report drawn dealt, processAll_of_givenUp report drawn dealt']
        exact ⟨rfl, congrArg (_ :: ·) told, rfl, rfl⟩
      | ok o =>
        obtain rfl : p = (e.pool.describe (c.name x) r).2 := kept
        obtain rfl : p' = (pool'.describe (c.name x) r').2 := kept'
        obtain ⟨result, later, sameWorld, sameStore⟩ :=
          ih store _ rest drawn (alike.onward (c.name x) h) (report.record o) w s
        rw [processAll_of_settled report drawn dealt, processAll_of_settled report drawn dealt']
        refine ⟨result, ?_, sameWorld, sameStore⟩
        simp only [List.cons_append, apartFromLookups, List.filter_cons, List.filter_append]
        simp only [apartFromLookups] at told later
        rw [told, later]

theorem run_sameButLookups (source : Source S E) (world : σ) :
    (e.run source r world).SameButLookups ((e.withPool pool').run source r' world) := by
  rw [run_eq_close, run_eq_close]
  exact (processAll_sameButLookups alike h source.pending {} world source.store).close _

end

theorem processAll_lookups (e : Engine ρ σ B) (c : Container S E) (s : Supply S E)
    (report : Report) (p : Position ρ σ S) :
    ∃ names, (e.processAll c s report p.pool p.world p.store).pool =
      e.pool.afterLookups names p.pool := by
  refine processAll_induction (motive := fun _ _ p ran =>
    ∃ names, ran.pool = e.pool.afterLookups names p.pool) ?_ ?_ s report p
  · intro s report p last halt
    cases halt with
    | exhausted => exact ⟨[], rfl⟩
    | unreadable => exact ⟨[], rfl⟩
    | @givenUp x _ _ _ _ _ _ _ dealt =>
      have kept := e.process_pool c x p.pool p.world (c.handOut x p.store)
      rw [dealt] at kept
      exact ⟨[c.name x], kept⟩
  · intro s rest report p q x o events more drawn dealt later
    have kept := e.process_pool c x p.pool p.world (c.handOut x p.store)
    rw [dealt] at kept
    obtain ⟨names, later⟩ := later
    exact ⟨c.name x :: names, later.trans (congrArg (e.pool.afterLookups names) kept)⟩

/-- What the pool of an engine keeps after runs over any sources, whatever states its plugins were
in. -/
inductive Keeps (e : Engine ρ σ B) (fresh : ρ) : ρ → Prop where
  | fresh : Keeps e fresh fresh
  | ran {kept : ρ} (before : Keeps e fresh kept) {S E : Type} (source : Source S E) (world : σ) :
      Keeps e fresh (e.run source kept world).pool

theorem Keeps.lookups {e : Engine ρ σ B} {fresh kept : ρ} (keeps : e.Keeps fresh kept) :
    ∃ names, kept = e.pool.afterLookups names fresh := by
  induction keeps with
  | fresh => exact ⟨[], rfl⟩
  | ran before source world ih =>
    obtain ⟨names, rfl⟩ := ih
    obtain ⟨more, after⟩ := e.processAll_lookups source.container source.pending {}
      ⟨e.pool.afterLookups names fresh, world, source.store⟩
    refine ⟨names ++ more, ?_⟩
    rw [run_eq_close]
    exact after.trans (List.foldl_append ..).symm

end Engine

namespace TypePool

/-- Answers that go by the name are remembered for good and asked for once, and an engine that
remembers them comes to the same over every source, after whatever it has run over before. -/
theorem caching_transparent {inner : TypePool ρ} {f : String → Option TypeName}
    (byName : inner.AnswersBy f) (fresh : ρ) :
    (∀ before name, Memoizes inner fresh before name) ∧
    ∀ {σ B : Type} [Builder B] (e : Engine ρ σ B), e.pool = inner →
      ∀ kept, (e.withPool (.cached inner)).Keeps (fresh, []) kept →
        (∃ names, kept = (cached inner).afterLookups names (fresh, [])) ∧
        ∀ {S E : Type} (source : Source S E) (r : ρ) (world : σ),
          let plain := e.run source r world
          let ran := (e.withPool (.cached inner)).run source kept world
          plain.account = ran.account ∧ plain.SameButLookups ran := by
  refine ⟨cached_memoizes byName fresh, ?_⟩
  intro σ B _ e pooled kept keeps
  obtain ⟨names, looked⟩ := keeps.lookups
  refine ⟨⟨names, looked⟩, fun source r world => ?_⟩
  have alike : e.pool.AnswersLike (.cached inner) fun _ state => Remembers f state.2 := by
    rw [pooled]
    exact answersLike_cached byName
  have remembers : Remembers f kept.2 := by
    rw [looked]
    exact afterLookups_remembers byName fresh names
  have same := Engine.run_sameButLookups alike (r := r) remembers source world
  exact ⟨same.account, same⟩

/-- What the inner pool has been asked for tells that the second run asks for the one new name. -/
theorem caching_transparent_rehearsed :
    let inner : TypePool (List String) :=
      ⟨fun name asked => (⟨if name == "prop" then none else some ⟨name⟩, true⟩, asked ++ [name])⟩
    let e := (rehearsal "stage.Play" [⟨0, "first", .these ["stage.Play"], .record⟩]).withPool inner
    let caching := e.withPool (.cached inner)
    let kept := (caching.run (.ofStock [⟨"prop", [1], false⟩, ⟨"stage.Play", [2], false⟩])
      ([], []) []).pool
    let source := Source.ofStock [⟨"stage.Play", [3], false⟩, ⟨"prop", [4], false⟩,
      ⟨"stage.Trial", [5], false⟩, ⟨"prop", [6], false⟩]
    let ran := caching.run source kept []
    inner.AnswersBy (fun name => if name == "prop" then none else some ⟨name⟩) ∧
      e.pool = inner ∧ caching.Keeps ([], []) kept ∧
      kept.1 = ["prop", "stage.Play"] ∧ ran.pool.1 = ["prop", "stage.Play", "stage.Trial"] ∧
      ran.account.result = .ok { transformed := 1, ignored := 1, unresolved := 2 } ∧
      (e.run source [] []).account = ran.account := by
  intro inner e caching kept source ran
  have byName : inner.AnswersBy fun name => if name == "prop" then none else some ⟨name⟩ :=
    fun _ _ => rfl
  have keeps : caching.Keeps ([], []) kept := .ran .fresh _ []
  have same := ((caching_transparent byName []).2 e rfl kept keeps).2 source [] []
  exact ⟨byName, rfl, keeps, by decide, by decide, by decide, same.1⟩

end TypePool
end ClassForge
