import ClassForge.Proofs.RunAccounting

/-!
Two engines over one source. As long as they deal alike with every element, their runs are one run;
at the first element where they do not, the second one stops. What parts them is marked by certain
events of the first, of which there is none before.
-/
namespace ClassForge
variable {ρ σ B S E : Type}

def Quiet (alarm : Event B → Prop) (events : List (Event B)) : Prop := ∀ ev ∈ events, ¬alarm ev

namespace Quiet
variable {alarm : Event B → Prop} {events more : List (Event B)}

theorem nil : Quiet alarm [] := by simp [Quiet]

theorem cons {ev : Event B} (first : ¬alarm ev) (rest : Quiet alarm events) :
    Quiet alarm (ev :: events) := List.forall_mem_cons.mpr ⟨first, rest⟩

theorem append (left : Quiet alarm events) (right : Quiet alarm more) :
    Quiet alarm (events ++ more) := List.forall_mem_append.mpr ⟨left, right⟩

end Quiet

theorem first_alarm_unique {alarm : Event B → Prop} {before before' after after' : List (Event B)}
    {ev ev' : Event B} (quiet : Quiet alarm before) (quiet' : Quiet alarm before')
    (alarming : alarm ev) (alarming' : alarm ev')
    (same : before ++ ev :: after = before' ++ ev' :: after') : before = before' ∧ ev = ev' := by
  induction before generalizing before' with
  | nil =>
    cases before' with
    | nil => exact ⟨rfl, (List.cons.inj same).1⟩
    | cons first rest =>
      obtain ⟨rfl, _⟩ := List.cons.inj same
      exact absurd alarming (quiet' ev List.mem_cons_self)
  | cons first rest ih =>
    cases before' with
    | nil =>
      obtain ⟨rfl, _⟩ := List.cons.inj same
      exact absurd alarming' (quiet first List.mem_cons_self)
    | cons first' rest' =>
      obtain ⟨rfl, tails⟩ := List.cons.inj same
      obtain ⟨rfl, rfl⟩ := ih (List.forall_mem_cons.mp quiet).2 (List.forall_mem_cons.mp quiet').2
        tails
      exact ⟨rfl, rfl⟩

/-- With one element, two engines do the same, or the second one gives it up. -/
inductive Parting (alarm : Event B → Prop)
    (parted : S → Ran ρ σ B S (Except RunError Outcome) →
      Ran ρ σ B S (Except RunError Outcome) → Prop) (store : S)
    (going : Ran ρ σ B S (Except RunError Outcome)) :
    Ran ρ σ B S (Except RunError Outcome) → Prop where
  | same (quiet : Quiet alarm going.events) : Parting alarm parted store going going
  | stopped {stopping : Ran ρ σ B S (Except RunError Outcome)} {err : RunError}
      (result : stopping.result = .error err) (apart : parted store going stopping) :
      Parting alarm parted store going stopping

variable [Builder B]

/-- Over the items of a source, both settle the same elements up to the one at which they part. -/
inductive PartingRuns (e e' : Engine ρ σ B) (c : Container S E) (alarm : Event B → Prop)
    (parted : S → Ran ρ σ B S (Except RunError Outcome) →
      Ran ρ σ B S (Except RunError Outcome) → Prop)
    (s : Supply S E) (p : Position ρ σ S) (going : Ran ρ σ B S (Except RunError Report)) :
    Ran ρ σ B S (Except RunError Report) → Prop where
  | same (quiet : Quiet alarm going.events) : PartingRuns e e' c alarm parted s p going going
  | stopped {stopping : Ran ρ σ B S (Except RunError Report)} {visits : List (Visit E B)}
      {left rest : Supply S E} {q : Position ρ σ S} {x : E} {more : List (Event B)}
      {err : RunError} {ran ran' : Ran ρ σ B S (Except RunError Outcome)}
      (course : Course e c s p visits left q)
      (drawn : left.draw q.store = some (.ok x, rest))
      (quiet : Quiet alarm (visitLogs c visits))
      (dealt : e.process c x q.pool q.world (c.handOut x q.store) = ran)
      (dealt' : e'.process c x q.pool q.world (c.handOut x q.store) = ran')
      (apart : parted (c.handOut x q.store) ran ran')
      (failed : ran'.result = .error err)
      (goingEvents : going.events =
        visitLogs c visits ++ .received (c.name x) :: ran.events ++ more)
      (result : stopping.result = .error err)
      (events : stopping.events = visitLogs c visits ++ .received (c.name x) :: ran'.events)
      (store : stopping.store = ran'.store) :
      PartingRuns e e' c alarm parted s p going stopping

section
variable {e e' : Engine ρ σ B} {c : Container S E} {alarm : Event B → Prop}
  {parted : S → Ran ρ σ B S (Except RunError Outcome) →
    Ran ρ σ B S (Except RunError Outcome) → Prop}
  (received : ∀ name, ¬alarm (.received name))
include received

theorem parting_after_visit {s rest : Supply S E} {p q : Position ρ σ S}
    {v : Visit E B} {going stopping : Ran ρ σ B S (Except RunError Report)}
    (drawn : s.draw p.store = some (.ok v.element, rest))
    (dealt : e.process c v.element p.pool p.world (c.handOut v.element p.store) =
      ⟨.ok v.outcome, v.events, q.pool, q.world, q.store⟩)
    (disposed : disposals v.events = [(c.name v.element, v.artifact?)])
    (quiet : Quiet alarm v.events) (h : PartingRuns e e' c alarm parted rest q going stopping) :
    PartingRuns e e' c alarm parted s p
      { going with events := v.log c ++ going.events }
      { stopping with events := v.log c ++ stopping.events } := by
  have quietLog : Quiet alarm (v.log c) := .cons (received _) quiet
  cases h with
  | same quietLater => exact .same (quietLog.append quietLater)
  | @stopped _ visits _ _ _ x more _ ran _ course next quietBefore dealtLast dealtLast' apart
      failed goingEvents result events store =>
    have goingAll : v.log c ++ going.events =
        visitLogs c (v :: visits) ++ .received (c.name x) :: ran.events ++ more := by
      simp [goingEvents]
    refine .stopped (.cons drawn dealt disposed course) next (quietLog.append quietBefore)
      dealtLast dealtLast' apart failed goingAll result ?_ store
    simp [events]

theorem processAll_parts (unreadable : ¬alarm .unreadable) (exhausted : ¬alarm .exhausted)
    (parts : ∀ x pool world store, Parting alarm parted store (e.process c x pool world store)
      (e'.process c x pool world store))
    (s : Supply S E) (report : Report) (p : Position ρ σ S) :
    PartingRuns e e' c alarm parted s p (e.processAll c s report p.pool p.world p.store)
      (e'.processAll c s report p.pool p.world p.store) := by
  induction s using Supply.draw_induction generalizing report p with
  | step s ih =>
    rcases drawn : s.draw p.store with _ | ⟨err | x, rest⟩
    · rw [processAll_of_exhausted report drawn, processAll_of_exhausted report drawn]
      exact .same (.cons exhausted .nil)
    · rw [processAll_of_unreadable report drawn, processAll_of_unreadable report drawn]
      exact .same (.cons unreadable .nil)
    · have alike := parts x p.pool p.world (c.handOut x p.store)
      rcases dealt : e.process c x p.pool p.world (c.handOut x p.store) with
        ⟨result, events, pool, world, store⟩
      rcases dealt' : e'.process c x p.pool p.world (c.handOut x p.store) with
        ⟨result', events', pool', world', store'⟩
      rw [dealt, dealt'] at alike
      cases alike with
      | same quiet =>
        cases result with
        | error err =>
          rw [processAll_of_givenUp report drawn dealt, processAll_of_givenUp report drawn dealt']
          exact .same (.cons (received _) quiet)
        | ok o =>
          rw [processAll_of_settled report drawn dealt, processAll_of_settled report drawn dealt']
          obtain ⟨a?, before, last, happened, opened, settles, _⟩ := process_settled dealt
          have disposed : disposals events = [(c.name x, a?)] :=
            happened ▸ settled_disposals opened settles
          -- Both engines are at the same position again, and the rest parts them or does not.
          let v : Visit E B := ⟨x, o, a?, events⟩
          exact parting_after_visit received (v := v) drawn dealt disposed quiet
            (ih p.store _ rest drawn (report.record o) ⟨pool, world, store⟩)
      | stopped failed apart =>
        obtain rfl : result' = _ := failed
        obtain ⟨more, first⟩ := processAll_events report drawn e c p.pool p.world
        rw [processAll_of_givenUp report drawn dealt']
        rw [dealt] at first
        exact .stopped (.nil s p) drawn .nil dealt dealt' apart rfl first rfl rfl rfl

end

end ClassForge
