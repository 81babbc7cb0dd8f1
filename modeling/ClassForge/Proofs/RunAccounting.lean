import ClassForge.Proofs.RunCourse

/-!
Accounting of a run. The elements that a run settles are the first of its source. Each of them is
disposed of once and has its outcome told once, and the report counts just these outcomes. An
element at which the run stops is left alone, and nothing after it is asked for. The source is
closed once.
-/
namespace ClassForge
variable {ρ σ B S E : Type}

def Visit.Settled (c : Container S E) (v : Visit E B) : Prop :=
  ∃ before last, v.events = before ++ last ∧ AllOpen before ∧
    Settles (c.name v.element) v.outcome v.artifact? last

/-- The visited elements are what the source hands out, one after the other, while the store goes
through their disposals. -/
inductive Stored (c : Container S E) :
    Supply S E → S → List (Visit E B) → Supply S E → S → Prop where
  | nil (s : Supply S E) (store : S) : Stored c s store [] s store
  | cons {s rest left : Supply S E} {store middle last : S} {v : Visit E B}
      {later : List (Visit E B)} (drawn : s.draw store = some (.ok v.element, rest))
      (disposed : Disposed c v.element (c.handOut v.element store) v.artifact? middle)
      (onward : Stored c rest middle later left last) : Stored c s store (v :: later) left last

/-- Where the supply is a list, the visits take its first items and leave the others. -/
def TakesFirst (s : Supply S E) (visits : List (Visit E B)) (left : Supply S E) : Prop :=
  ∀ items, s = .ofList items → ∃ rest, left = .ofList rest ∧ items = visited visits ++ rest

theorem stored_takesFirst {c : Container S E} {s left : Supply S E} {store last : S}
    {visits : List (Visit E B)} (stored : Stored c s store visits left last) :
    TakesFirst s visits left := by
  intro items listed
  induction stored generalizing items with
  | nil s store => exact ⟨items, listed, rfl⟩
  | cons drawn disposed onward ih =>
    subst listed
    cases items with
    | nil => cases drawn
    | cons head others =>
      cases drawn
      obtain ⟨rest, left, split⟩ := ih others rfl
      exact ⟨rest, left, congrArg _ split⟩

/-- How many visited elements had each outcome. -/
def tally (visits : List (Visit E B)) : Report where
  transformed := visits.countP (·.outcome = .success)
  ignored := visits.countP (·.outcome = .ignored)
  failed := visits.countP (·.outcome = .failed)
  unresolved := visits.countP (·.outcome = .unresolved)

theorem tally_foldl (visits : List (Visit E B)) (r : Report) :
    visits.foldl (fun r v => r.record v.outcome) r = r.add (tally visits) := by
  induction visits generalizing r with
  | nil => rfl
  | cons v visits ih =>
    rw [List.foldl_cons, ih]
    cases outcome : v.outcome <;> simp [tally, Report.record, Report.add, outcome] <;> omega

theorem tally_total (visits : List (Visit E B)) : (tally visits).total = visits.length := by
  induction visits with
  | nil => rfl
  | cons v visits ih =>
    simp only [tally, Report.total] at ih
    cases outcome : v.outcome <;> simp [tally, Report.total, outcome] <;> omega

theorem settled_log {c : Container S E} {v : Visit E B} (h : v.Settled c) :
    disposals (v.log c) = [(c.name v.element, v.artifact?)] ∧ outcomes (v.log c) = [v.outcome] ∧
      requests (v.log c) = 1 ∧ closings (v.log c) = 0 := by
  obtain ⟨before, last, split, opened, settles⟩ := h
  have disposed := settled_disposals opened settles
  have told := settled_outcomes opened settles
  have asked := settled_requests opened settles
  have closed := settled_closings opened settles
  rw [← split] at disposed told asked closed
  exact ⟨disposed, told, by simp [Visit.log, List.countP_cons, asked, Event.isRequest],
    by simp [Visit.log, closed, Event.isClosing]⟩

theorem settled_logs {c : Container S E} {visits : List (Visit E B)}
    (h : ∀ v ∈ visits, v.Settled c) :
    disposals (visitLogs c visits) = visits.map (fun v => (c.name v.element, v.artifact?)) ∧
      outcomes (visitLogs c visits) = visits.map Visit.outcome ∧
      requests (visitLogs c visits) = visits.length ∧ closings (visitLogs c visits) = 0 := by
  induction visits with
  | nil => exact ⟨rfl, rfl, rfl, rfl⟩
  | cons v visits ih =>
    obtain ⟨first, rest⟩ := List.forall_mem_cons.mp h
    obtain ⟨disposed, told, asked, closed⟩ := settled_log first
    obtain ⟨disposedLater, toldLater, askedLater, closedLater⟩ := ih rest
    simp only [visitLogs_cons, List.filterMap_append, List.countP_append, disposed, told, asked,
      closed, disposedLater, toldLater, askedLater, closedLater]
    exact ⟨rfl, rfl, by simp [Nat.add_comm], trivial⟩

/-- What is left at the end of a course, by what comes next then: the last events before the source
is closed, the result of all the processing, and the store. -/
inductive Ending (c : Container S E) (visits : List (Visit E B)) (s : Supply S E) (store : S) :
    List (Event B) → Except RunError Report → S → Prop where
  | exhausted (drawn : s.draw store = none) :
      Ending c visits s store [.exhausted] (.ok (tally visits)) store
  | unreadable {err : RunError} {rest : Supply S E}
      (drawn : s.draw store = some (.error err, rest)) :
      Ending c visits s store [.unreadable] (.error err) store
  | givenUp {x : E} {rest : Supply S E} {events : List (Event B)} {err : RunError} {left : S}
      (drawn : s.draw store = some (.ok x, rest)) (opened : AllOpen events)
      (leaving : GivenUp c x (c.handOut x store) left) :
      Ending c visits s store (.received (c.name x) :: events) (.error err) left

theorem ending_events {c : Container S E} {visits : List (Visit E B)} {s : Supply S E}
    {store left : S} {last : List (Event B)} {processed : Except RunError Report}
    (h : Ending c visits s store last processed left) :
    disposals last = [] ∧ outcomes last = [] ∧ requests last = 1 ∧ closings last = 0 := by
  cases h with
  | exhausted => exact ⟨rfl, rfl, rfl, rfl⟩
  | unreadable => exact ⟨rfl, rfl, rfl, rfl⟩
  | givenUp drawn opened leaving =>
    exact ⟨opened.disposals_eq, opened.outcomes_eq,
      by simp [List.countP_cons, opened.requests_eq, Event.isRequest],
      by simp [opened.closings_eq, Event.isClosing]⟩

variable [Builder B]

theorem course_settled {e : Engine ρ σ B} {c : Container S E} {s left : Supply S E}
    {p q : Position ρ σ S} {visits : List (Visit E B)} (h : Course e c s p visits left q) :
    (∀ v ∈ visits, v.Settled c) ∧ Stored c s p.store visits left q.store := by
  induction h with
  | nil s p => exact ⟨by simp, .nil s p.store⟩
  | @cons s rest left p q r v later drawn dealt disposed onward ih =>
    obtain ⟨settledLater, storedLater⟩ := ih
    obtain ⟨a?, before, last, happened, opened, settles, stored⟩ := process_settled dealt
    have same : v.artifact? = a? := by
      have read := settled_disposals opened settles
      rw [← happened, disposed] at read
      simpa using read
    rw [← same] at settles stored
    exact ⟨List.forall_mem_cons.mpr ⟨⟨before, last, happened, opened, settles⟩, settledLater⟩,
      .cons drawn stored storedLater⟩

structure Accounted (source : Source S E) (ran : Ran ρ σ B S (Except RunError Report))
    (visits : List (Visit E B)) : Prop where
  settled : ∀ v ∈ visits, v.Settled source.container
  disposals_eq : disposals ran.events =
    visits.map fun v => (source.container.name v.element, v.artifact?)
  outcomes_eq : outcomes ran.events = visits.map Visit.outcome
  /-- One request for each visited element, and one that ends the run. -/
  requests_eq : requests ran.events = visits.length + 1
  closings_eq : closings ran.events = 1
  total_eq : (tally visits).total = visits.length
  ending : ∃ left last processed store final,
    Stored source.container source.pending source.store visits left store ∧
    TakesFirst source.pending visits left ∧
    Ending source.container visits left store last processed final ∧
    ran.events = visitLogs source.container visits ++ last ++ [.closed] ∧
    ran.result = closingResult processed (source.container.close final).1 ∧
    ran.store = (source.container.close final).2

theorem halt_ending {e : Engine ρ σ B} {c : Container S E} {s : Supply S E} {p : Position ρ σ S}
    {visits : List (Visit E B)} {last : Ran ρ σ B S (Except RunError Report)}
    (h : Halt e c s p (tally visits) last) :
    Ending c visits s p.store last.events last.result last.store := by
  cases h with
  | exhausted drawn => exact .exhausted drawn
  | unreadable drawn => exact .unreadable drawn
  | @givenUp x rest err events pool world store drawn dealt =>
    have exit := e.process_exit c x p.pool p.world (c.handOut x p.store)
    rw [dealt] at exit
    cases exit with
    | givenUp opened leaving => exact .givenUp drawn opened leaving

/-- Every run is a course and a halt, after which the source is closed. -/
theorem run_course (e : Engine ρ σ B) (source : Source S E) (pool : ρ) (world : σ) :
    ∃ visits q left last,
      Course e source.container source.pending ⟨pool, world, source.store⟩ visits left q ∧
      Halt e source.container left q (tally visits) last ∧
      e.run source pool world =
        Ran.close source.container
          { last with events := visitLogs source.container visits ++ last.events } := by
  obtain ⟨visits, q, left, last, course, halt, ran⟩ :=
    processAll_course e source.container source.pending {} ⟨pool, world, source.store⟩
  have started : ({} : Report).add (tally visits) = tally visits := by simp [Report.add]
  rw [tally_foldl, started] at halt
  refine ⟨visits, q, left, last, course, halt, ?_⟩
  rw [run_eq_close, Engine.processing, ran]

theorem course_accounted {e : Engine ρ σ B} {source : Source S E} {pool : ρ} {world : σ}
    {visits : List (Visit E B)} {q : Position ρ σ S} {left : Supply S E}
    {last : Ran ρ σ B S (Except RunError Report)}
    (course : Course e source.container source.pending ⟨pool, world, source.store⟩ visits left q)
    (halt : Halt e source.container left q (tally visits) last) :
    Accounted source (Ran.close source.container
      { last with events := visitLogs source.container visits ++ last.events }) visits := by
  obtain ⟨settled, stored⟩ := course_settled course
  have ending := halt_ending halt
  obtain ⟨disposedLast, toldLast, askedLast, closedLast⟩ := ending_events ending
  obtain ⟨disposed, told, asked, closed⟩ := settled_logs settled
  refine ⟨settled, ?_, ?_, ?_, ?_, tally_total visits,
    ⟨left, last.events, last.result, q.store, last.store, stored, stored_takesFirst stored, ending,
      rfl, rfl, rfl⟩⟩
  · simp only [Ran.close, List.filterMap_append, disposed, disposedLast]
    simp [Event.disposal?]
  · simp only [Ran.close, List.filterMap_append, told, toldLast]
    simp [Event.outcome?]
  · simp only [Ran.close, List.countP_append, asked, askedLast]
    simp [Event.isRequest]
  · simp only [Ran.close, List.countP_append, closed, closedLast]
    simp [Event.isClosing]

/-- Every run settles the elements that its source hands out first, and its books are in order. -/
theorem run_accounted (e : Engine ρ σ B) (source : Source S E) (pool : ρ) (world : σ) :
    ∃ visits, Accounted source (e.run source pool world) visits := by
  obtain ⟨visits, q, left, last, course, halt, ran⟩ := run_course e source pool world
  rw [ran]
  exact ⟨visits, course_accounted course halt⟩

end ClassForge
