import ClassForge.Proofs.RunCourse

/-!
Runs over two sources of different kinds. If the elements have the same names, and keeping,
replacing and closing go the same way on both sides, an engine cannot tell the sources apart: it
comes to the same result by the same events, and the stores stay related.
-/
namespace ClassForge
variable {ρ σ B S S' E E' α : Type}

structure Ran.Alike (related : S → S' → Prop) (ran : Ran ρ σ B S α) (ran' : Ran ρ σ B S' α) :
    Prop where
  result : ran.result = ran'.result
  events : ran.events = ran'.events
  pool : ran.pool = ran'.pool
  world : ran.world = ran'.world
  store : related ran.store ran'.store

theorem Ran.Alike.imp {related coarser : S → S' → Prop} {ran : Ran ρ σ B S α}
    {ran' : Ran ρ σ B S' α} (alike : ran.Alike related ran')
    (implies : ∀ s s', related s s' → coarser s s') : ran.Alike coarser ran' :=
  { alike with store := implies _ _ alike.store }

/-- Two containers go the same way. What their stores have in common is said with regard to the
elements that are still to be dealt with, paired as they are handed out. -/
structure Simulation (c : Container S E) (c' : Container S' E')
    (related : List (E × E') → S → S' → Prop) : Prop where
  name {x : E} {x' : E'} {rest : List (E × E')} {s : S} {s' : S'} :
    related ((x, x') :: rest) s s' → c.name x = c'.name x'
  handOut {x : E} {x' : E'} {rest : List (E × E')} {s : S} {s' : S'} :
    related ((x, x') :: rest) s s' → related ((x, x') :: rest) (c.handOut x s) (c'.handOut x' s')
  retain {x : E} {x' : E'} {rest : List (E × E')} {s : S} {s' : S'} :
    related ((x, x') :: rest) s s' → related rest (c.retain x s) (c'.retain x' s')
  replace {x : E} {x' : E'} {rest : List (E × E')} {s : S} {s' : S'} (a : Artifact) :
    related ((x, x') :: rest) s s' → (c.replace x a s).1 = (c'.replace x' a s').1 ∧
      related rest (c.replace x a s).2 (c'.replace x' a s').2
  close {rest : List (E × E')} {s : S} {s' : S'} :
    related rest s s' → (c.close s).1 = (c'.close s').1 ∧
      related rest (c.close s).2 (c'.close s').2

def RelatedAtLast (related : List (E × E') → S → S' → Prop) (s : S) (s' : S') : Prop :=
  ∃ rest, related rest s s'

structure EndAlike (related : List (E × E') → S → S' → Prop) (rest : List (E × E'))
    (ended : Except RunError Outcome × List (Event B) × S)
    (ended' : Except RunError Outcome × List (Event B) × S') : Prop where
  result : ended.1 = ended'.1
  events : ended.2.1 = ended'.2.1
  settled : ∀ o, ended.1 = .ok o → related rest ended.2.2 ended'.2.2
  store : RelatedAtLast related ended.2.2 ended'.2.2

namespace Simulation
variable [Builder B] {c : Container S E} {c' : Container S' E'}
  {related : List (E × E') → S → S' → Prop} (sim : Simulation c c' related) (e : Engine ρ σ B)
  {x : E} {x' : E'} {rest : List (E × E')} {s : S} {s' : S'}
  (h : related ((x, x') :: rest) s s')
include sim h

theorem commit_alike (t : TypeName) (b : B) :
    EndAlike related rest (e.commit c x t b s) (e.commit c' x' t b s') := by
  cases made : Builder.make b with
  | error err =>
    rw [Engine.commit_of_unmade e c x t made, Engine.commit_of_unmade e c' x' t made]
    exact ⟨rfl, rfl, by simp, _, h⟩
  | ok a =>
    cases checked : e.initializerPolicy.check a with
    | error err =>
      rw [Engine.commit_of_rejected e c x t made checked,
        Engine.commit_of_rejected e c' x' t made checked]
      exact ⟨rfl, rfl, by simp, _, h⟩
    | ok done =>
      obtain ⟨same, next⟩ := sim.replace a h
      have named := sim.name h
      rcases replaced : c.replace x a s with ⟨result, after⟩
      rcases replaced' : c'.replace x' a s' with ⟨result', after'⟩
      rw [replaced, replaced'] at same next
      obtain rfl : result = result' := same
      cases result with
      | error err =>
        rw [Engine.commit_of_refused e c x t made checked replaced,
          Engine.commit_of_refused e c' x' t made checked replaced']
        exact ⟨rfl, by rw [named], by simp, _, next⟩
      | ok done =>
        rw [Engine.commit_of_replaced e c x t made checked replaced,
          Engine.commit_of_replaced e c' x' t made checked replaced']
        exact ⟨rfl, by rw [named], fun _ _ => next, _, next⟩

theorem conclude_alike (t : TypeName) (g : Progress B) :
    EndAlike related rest (e.conclude c x t g s) (e.conclude c' x' t g s') := by
  have named := sim.name h
  have kept := sim.retain h
  unfold Engine.conclude
  split
  · exact ⟨rfl, by rw [named], fun _ _ => kept, _, kept⟩
  · split
    · exact ⟨rfl, by rw [named], fun _ _ => kept, _, kept⟩
    · exact sim.commit_alike e h t g.builder

theorem process_alike (pool : ρ) (world : σ) :
    let ran := e.process c x pool world s
    let ran' := e.process c' x' pool world s'
    ran.Alike (RelatedAtLast related) ran' ∧
      ∀ o, ran.result = .ok o → related rest ran.store ran'.store := by
  intro ran ran'
  have named := sim.name h
  rcases found : e.pool.describe (c.name x) pool with ⟨⟨type?, consulted⟩, pool'⟩
  have found' := found
  rw [named] at found'
  cases type? with
  | none =>
    have kept := sim.retain h
    have first : ran = _ := Engine.process_of_unresolved found
    have second : ran' = _ := Engine.process_of_unresolved found'
    rw [first, second, named]
    exact ⟨⟨rfl, rfl, rfl, rfl, _, kept⟩, fun _ _ => kept⟩
  | some t =>
    rcases begun : e.entryPoint t e.version e.locator world with ⟨err | b, world'⟩
    · have first : ran = _ := Engine.process_of_unseeded found begun
      have second : ran' = _ := Engine.process_of_unseeded found' begun
      rw [first, second, named]
      exact ⟨⟨rfl, rfl, rfl, rfl, _, h⟩, by simp⟩
    · rcases turned : applyPlugins e.failurePolicy e.locator t 0 e.plugins ⟨b, false, false⟩ world'
        with ⟨err | g, events, last⟩
      · have first : ran = _ := Engine.process_of_stopped found begun turned
        have second : ran' = _ := Engine.process_of_stopped found' begun turned
        rw [first, second, named]
        exact ⟨⟨rfl, rfl, rfl, rfl, _, h⟩, by simp⟩
      · have first : ran = _ := Engine.process_of_folded found begun turned
        have second : ran' = _ := Engine.process_of_folded found' begun turned
        obtain ⟨result, more, settled, store⟩ := sim.conclude_alike e h t g
        rw [first, second, named]
        exact ⟨⟨result, congrArg (_ ++ ·) more, rfl, rfl, store⟩, settled⟩

end Simulation

section
variable [Builder B] {c : Container S E} {c' : Container S' E'}
  {related : List (E × E') → S → S' → Prop} (sim : Simulation c c' related) (e : Engine ρ σ B)
include sim

theorem Simulation.processAll_alike (items : List (E × E')) (report : Report) (pool : ρ) (world : σ)
    {s : S} {s' : S'} (h : related items s s') :
    (e.processAll c (.ofList (items.map (.ok ·.1))) report pool world s).Alike
      (RelatedAtLast related)
      (e.processAll c' (.ofList (items.map (.ok ·.2))) report pool world s') := by
  induction items generalizing report pool world s s' with
  | nil => exact ⟨rfl, rfl, rfl, rfl, _, h⟩
  | cons item rest ih =>
    obtain ⟨x, x'⟩ := item
    have named := sim.name h
    obtain ⟨alike, settled⟩ := sim.process_alike e (sim.handOut h) pool world
    rcases dealt : e.process c x pool world (c.handOut x s) with ⟨result, events, p, w, store⟩
    rcases dealt' : e.process c' x' pool world (c'.handOut x' s') with ⟨_, _, _, _, store'⟩
    rw [dealt, dealt'] at alike settled
    obtain ⟨rfl, rfl, rfl, rfl, last⟩ := alike
    have drawn := Supply.draw_ofList_cons (.ok x) (rest.map (.ok ·.1)) s
    have drawn' := Supply.draw_ofList_cons (.ok x') (rest.map (.ok ·.2)) s'
    rw [List.map_cons, List.map_cons]
    cases result with
    | error err =>
      rw [processAll_of_givenUp report drawn dealt, processAll_of_givenUp report drawn' dealt',
        named]
      exact ⟨rfl, rfl, rfl, rfl, last⟩
    | ok o =>
      rw [processAll_of_settled report drawn dealt, processAll_of_settled report drawn' dealt',
        named]
      obtain ⟨resultLater, eventsLater, poolLater, worldLater, storeLater⟩ :=
        ih (report.record o) p w (settled o rfl)
      exact ⟨resultLater, congrArg (_ ++ ·) eventsLater, poolLater, worldLater, storeLater⟩

theorem Simulation.run_alike {source : Source S E} {source' : Source S' E'} {items : List (E × E')}
    (container : source.container = c) (container' : source'.container = c')
    (pending : source.pending = .ofList (items.map (.ok ·.1)))
    (pending' : source'.pending = .ofList (items.map (.ok ·.2)))
    (h : related items source.store source'.store) (pool : ρ) (world : σ) :
    (e.run source pool world).Alike (RelatedAtLast related) (e.run source' pool world) := by
  obtain ⟨result, events, samePool, sameWorld, rest, store⟩ :=
    sim.processAll_alike e items {} pool world h
  obtain ⟨closing, last⟩ := sim.close store
  rw [run_eq_close, run_eq_close, Engine.processing, Engine.processing, container, container',
    pending, pending']
  refine ⟨?_, congrArg (· ++ _) events, samePool, sameWorld, rest, last⟩
  simp only [Ran.close, result, closing]

end

end ClassForge
