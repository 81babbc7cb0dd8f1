import ClassForge.Proofs.ElementExit

/-!
The course of a run: the elements that it settles, one after the other, and where it halts.
Whatever is to be shown of runs is shown of one visit first, and then along the course.
-/
namespace ClassForge
variable {ρ σ B S E : Type}

/-- A settled element, with all that happened while the engine dealt with it. -/
structure Visit (E B : Type) where
  element : E
  outcome : Outcome
  /-- The artifact that took the element's place. -/
  artifact? : Option Artifact
  events : List (Event B)

def Visit.log (c : Container S E) (v : Visit E B) : List (Event B) :=
  .received (c.name v.element) :: v.events

def visitLogs (c : Container S E) (visits : List (Visit E B)) : List (Event B) :=
  visits.flatMap (Visit.log c)

def visited (visits : List (Visit E B)) : List (Except RunError E) :=
  visits.map fun v => .ok v.element

@[simp] theorem visitLogs_nil (c : Container S E) :
    visitLogs c ([] : List (Visit E B)) = [] := rfl

@[simp] theorem visitLogs_cons (c : Container S E) (v : Visit E B) (visits : List (Visit E B)) :
    visitLogs c (v :: visits) = v.log c ++ visitLogs c visits := rfl

@[simp] theorem visited_nil : visited ([] : List (Visit E B)) = [] := rfl

@[simp] theorem visited_cons (v : Visit E B) (visits : List (Visit E B)) :
    visited (v :: visits) = .ok v.element :: visited visits := rfl

/-- The states of pool, plugins and store between two elements. -/
structure Position (ρ σ S : Type) where
  pool : ρ
  world : σ
  store : S

variable [Builder B]

/-- The visits lead from one position to another, and what is drawn for them is gone from the
supply. -/
inductive Course (e : Engine ρ σ B) (c : Container S E) :
    Supply S E → Position ρ σ S → List (Visit E B) → Supply S E → Position ρ σ S → Prop where
  | nil (s : Supply S E) (p : Position ρ σ S) : Course e c s p [] s p
  | cons {s rest left : Supply S E} {p q r : Position ρ σ S} {v : Visit E B}
      {later : List (Visit E B)} (drawn : s.draw p.store = some (.ok v.element, rest))
      (dealt : e.process c v.element p.pool p.world (c.handOut v.element p.store) =
        ⟨.ok v.outcome, v.events, q.pool, q.world, q.store⟩)
      (disposed : disposals v.events = [(c.name v.element, v.artifact?)])
      (onward : Course e c rest q later left r) : Course e c s p (v :: later) left r

/-- Where the course ends: nothing is left, an item cannot be read, or an element is given up. -/
inductive Halt (e : Engine ρ σ B) (c : Container S E) (s : Supply S E) (p : Position ρ σ S)
    (report : Report) : Ran ρ σ B S (Except RunError Report) → Prop where
  | exhausted (drawn : s.draw p.store = none) :
      Halt e c s p report ⟨.ok report, [.exhausted], p.pool, p.world, p.store⟩
  | unreadable {err : RunError} {rest : Supply S E}
      (drawn : s.draw p.store = some (.error err, rest)) :
      Halt e c s p report ⟨.error err, [.unreadable], p.pool, p.world, p.store⟩
  | givenUp {x : E} {rest : Supply S E} {err : RunError} {events : List (Event B)}
      {pool : ρ} {world : σ} {store : S} (drawn : s.draw p.store = some (.ok x, rest))
      (dealt : e.process c x p.pool p.world (c.handOut x p.store) =
        ⟨.error err, events, pool, world, store⟩) :
      Halt e c s p report ⟨.error err, .received (c.name x) :: events, pool, world, store⟩

theorem process_settled {e : Engine ρ σ B} {c : Container S E} {x : E} {pool pool' : ρ}
    {world world' : σ} {store store' : S} {o : Outcome} {events : List (Event B)}
    (dealt : e.process c x pool world store = ⟨.ok o, events, pool', world', store'⟩) :
    ∃ a? before last, events = before ++ last ∧ AllOpen before ∧ Settles (c.name x) o a? last ∧
      Disposed c x store a? store' := by
  have exit := e.process_exit c x pool world store
  rw [dealt] at exit
  cases exit with
  | settled opened settles disposed => exact ⟨_, _, _, rfl, opened, settles, disposed⟩

theorem processAll_eq (e : Engine ρ σ B) (c : Container S E) (s : Supply S E) (report : Report)
    (pool : ρ) (world : σ) (store : S) :
    e.processAll c s report pool world store =
      match s.draw store with
      | none => ⟨.ok report, [.exhausted], pool, world, store⟩
      | some (.error err, _) => ⟨.error err, [.unreadable], pool, world, store⟩
      | some (.ok x, rest) => e.processAll c (.item (.ok x) rest) report pool world store := by
  induction s with
  | exhausted => rfl
  | item head rest ih => cases head <;> rfl
  | asking look ih => exact ih store

section
variable {e : Engine ρ σ B} {c : Container S E} {s rest : Supply S E} {x : E} {pool pool' : ρ}
  {world world' : σ} {store store' : S} {events : List (Event B)} (report : Report)

theorem processAll_of_exhausted (drawn : s.draw store = none) :
    e.processAll c s report pool world store =
      ⟨.ok report, [.exhausted], pool, world, store⟩ := by
  rw [processAll_eq, drawn]

theorem processAll_of_unreadable {err : RunError}
    (drawn : s.draw store = some (.error err, rest)) :
    e.processAll c s report pool world store =
      ⟨.error err, [.unreadable], pool, world, store⟩ := by
  rw [processAll_eq, drawn]

variable (drawn : s.draw store = some (.ok x, rest))
include drawn

theorem processAll_of_settled {o : Outcome}
    (dealt : e.process c x pool world (c.handOut x store) =
      ⟨.ok o, events, pool', world', store'⟩) :
    let more := e.processAll c rest (report.record o) pool' world' store'
    e.processAll c s report pool world store =
      { more with events := .received (c.name x) :: events ++ more.events } := by
  intro more
  rw [processAll_eq e c s, drawn]
  simp only [Engine.processAll, dealt, more]

theorem processAll_of_givenUp {err : RunError}
    (dealt : e.process c x pool world (c.handOut x store) =
      ⟨.error err, events, pool', world', store'⟩) :
    e.processAll c s report pool world store =
      ⟨.error err, .received (c.name x) :: events, pool', world', store'⟩ := by
  rw [processAll_eq, drawn]
  simp only [Engine.processAll, dealt]

theorem processAll_events (e : Engine ρ σ B) (c : Container S E) (pool : ρ) (world : σ) :
    ∃ more, (e.processAll c s report pool world store).events =
      .received (c.name x) :: (e.process c x pool world (c.handOut x store)).events ++ more := by
  rcases dealt : e.process c x pool world (c.handOut x store) with ⟨err | o, events, p, w, after⟩
  · rw [processAll_of_givenUp report drawn dealt]
    exact ⟨[], by simp⟩
  · rw [processAll_of_settled report drawn dealt]
    exact ⟨_, rfl⟩

end

/-- Induction along a run: what holds where it halts, and of a settled element in front of what
comes after it. -/
theorem processAll_induction {e : Engine ρ σ B} {c : Container S E}
    {motive : Supply S E → Report → Position ρ σ S → Ran ρ σ B S (Except RunError Report) → Prop}
    (halted : ∀ s report p last, Halt e c s p report last → motive s report p last)
    (settled : ∀ s rest report p q x o events more, s.draw p.store = some (.ok x, rest) →
      e.process c x p.pool p.world (c.handOut x p.store) =
        ⟨.ok o, events, q.pool, q.world, q.store⟩ →
      motive rest (report.record o) q more →
      motive s report p { more with events := .received (c.name x) :: events ++ more.events })
    (s : Supply S E) (report : Report) (p : Position ρ σ S) :
    motive s report p (e.processAll c s report p.pool p.world p.store) := by
  -- The report is generalized because each element is counted before the rest is dealt with.
  induction s using Supply.draw_induction generalizing report p with
  | step s ih =>
    rcases drawn : s.draw p.store with _ | ⟨err | x, rest⟩
    · rw [processAll_of_exhausted report drawn]
      exact halted s report p _ (.exhausted drawn)
    · rw [processAll_of_unreadable report drawn]
      exact halted s report p _ (.unreadable drawn)
    · rcases dealt : e.process c x p.pool p.world (c.handOut x p.store) with
        ⟨err | o, events, pool, world, store⟩
      · rw [processAll_of_givenUp report drawn dealt]
        exact halted s report p _ (.givenUp drawn dealt)
      · rw [processAll_of_settled report drawn dealt]
        exact settled s rest report p ⟨pool, world, store⟩ x o events _ drawn dealt
          (ih p.store _ rest drawn (report.record o) ⟨pool, world, store⟩)

/-- Every run over a supply is a course and a halt. -/
theorem processAll_course (e : Engine ρ σ B) (c : Container S E) (s : Supply S E) (report : Report)
    (p : Position ρ σ S) :
    ∃ visits q left last, Course e c s p visits left q ∧
      Halt e c left q (visits.foldl (fun r v => r.record v.outcome) report) last ∧
      e.processAll c s report p.pool p.world p.store =
        { last with events := visitLogs c visits ++ last.events } := by
  refine processAll_induction (motive := fun s report p ran => ∃ visits q left last,
    Course e c s p visits left q ∧
      Halt e c left q (visits.foldl (fun r v => r.record v.outcome) report) last ∧
      ran = { last with events := visitLogs c visits ++ last.events }) ?_ ?_ s report p
  · intro s report p last halt
    exact ⟨[], p, s, last, .nil s p, halt, rfl⟩
  · intro s rest report p q x o events more drawn dealt later
    obtain ⟨a?, before, closing, happened, opened, settles, _⟩ := process_settled dealt
    have disposed : disposals events = [(c.name x, a?)] :=
      happened ▸ settled_disposals opened settles
    obtain ⟨visits, r, left, last, course, halt, rfl⟩ := later
    let v : Visit E B := ⟨x, o, a?, events⟩
    refine ⟨v :: visits, r, left, last, .cons (v := v) drawn dealt disposed course, halt, ?_⟩
    simp [v, Visit.log]

/-- What holds of the events of every element holds of those of a run. -/
theorem processAll_every {e : Engine ρ σ B} {c : Container S E} {P : Event B → Prop}
    (received : ∀ name, P (.received name)) (unreadable : P .unreadable) (exhausted : P .exhausted)
    (every : ∀ x pool world store, ∀ ev ∈ (e.process c x pool world store).events, P ev)
    (s : Supply S E) (report : Report) (p : Position ρ σ S) :
    ∀ ev ∈ (e.processAll c s report p.pool p.world p.store).events, P ev := by
  refine processAll_induction (motive := fun _ _ _ ran => ∀ ev ∈ ran.events, P ev) ?_ ?_ s report p
  · intro s report p last halt
    cases halt with
    | exhausted => exact List.forall_mem_singleton.mpr exhausted
    | unreadable => exact List.forall_mem_singleton.mpr unreadable
    | @givenUp x _ _ _ _ _ _ _ dealt =>
      have told := every x p.pool p.world (c.handOut x p.store)
      rw [dealt] at told
      exact List.forall_mem_cons.mpr ⟨received _, told⟩
  · intro s rest report p q x o events more drawn dealt later
    have told := every x p.pool p.world (c.handOut x p.store)
    rw [dealt] at told
    exact List.forall_mem_cons.mpr ⟨received _, List.forall_mem_append.mpr ⟨told, later⟩⟩

/-- An error of closing counts only when there was no other. -/
def closingResult (processed : Except RunError Report) (closing : Except RunError Unit) :
    Except RunError Report :=
  match processed, closing with
  | .ok _, .error err => .error err
  | result, _ => result

def Ran.close (c : Container S E) (ran : Ran ρ σ B S (Except RunError Report)) :
    Ran ρ σ B S (Except RunError Report) where
  result := closingResult ran.result (c.close ran.store).1
  events := ran.events ++ [.closed]
  pool := ran.pool
  world := ran.world
  store := (c.close ran.store).2

def Engine.processing (e : Engine ρ σ B) (source : Source S E) (pool : ρ) (world : σ) :
    Ran ρ σ B S (Except RunError Report) :=
  e.processAll source.container source.pending {} pool world source.store

namespace SourceGuard
variable (c : Container S E) {g : SourceGuard S}

omit [Builder B] in
theorem drop_of_open (opened : g.closed = false) :
    (g.drop c : List (Event B) × SourceGuard S) = ([.closed], ⟨(c.close g.store).2, true⟩) := by
  rw [drop, opened]
  rfl

omit [Builder B] in
theorem drop_of_closed (closed : g.closed = true) :
    (g.drop c : List (Event B) × SourceGuard S) = ([], g) := by
  rw [drop, if_pos closed]

end SourceGuard

/-- On both ways out of a run its source is closed once. -/
theorem run_eq_close (e : Engine ρ σ B) (source : Source S E) (pool : ρ) (world : σ) :
    e.run source pool world = (e.processing source pool world).close source.container := by
  rw [Engine.run, Engine.processing]
  generalize e.processAll source.container source.pending {} pool world source.store = processed
  obtain ⟨result, events, after, left, store⟩ := processed
  cases result with
  | error err => simp [SourceGuard.drop_of_open, Ran.close, closingResult]
  | ok report =>
    rcases closed : source.container.close store with ⟨err | done, last⟩ <;>
      simp [SourceGuard.close, SourceGuard.drop_of_closed, Ran.close, closingResult, closed,
        Except.map]

end ClassForge
