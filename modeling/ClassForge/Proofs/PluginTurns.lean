import ClassForge.Proofs.Trace

/-!
The plugins' turns with one type. A turn is a plugin together with the builder and the state that it
finds; what the plugin does then decides what the next one finds. Here the turns are laid out in a
list first, and the engine's loop over the plugins is read off that list.
-/
namespace ClassForge
variable {σ B : Type}

structure Turn (σ B : Type) where
  plugin : Plugin σ B
  builder : B
  world : σ

namespace Turn
variable (t : TypeName) (l : Locator)

def answer (u : Turn σ B) : Call Bool × σ := u.plugin.selects t u.world

def response (u : Turn σ B) : Call (Except PluginFailure B) × σ :=
  u.plugin.apply u.builder t l (u.answer t).2

def selected (u : Turn σ B) : Bool :=
  match (u.answer t).1 with
  | .returned b => b
  | .panicked _ => false

/-- A plugin fails when it panics as it is asked, or when it is for the type and then refuses or
panics as it is applied. -/
def failure? (u : Turn σ B) : Option PluginFailure :=
  match (u.answer t).1 with
  | .panicked m => some (.panicked u.plugin.name (panicText m))
  | .returned false => none
  | .returned true =>
    match (u.response t l).1 with
    | .panicked m => some (.panicked u.plugin.name (panicText m))
    | .returned (.error f) => some f
    | .returned (.ok _) => none

/-- The builder changes only by a plugin that is for the type and does not fail. -/
def builderAfter (u : Turn σ B) : B :=
  match (u.answer t).1, (u.response t l).1 with
  | .returned true, .returned (.ok b) => b
  | _, _ => u.builder

def worldAfter (u : Turn σ B) : σ := if u.selected t then (u.response t l).2 else (u.answer t).2

def transforms (u : Turn σ B) : Bool := u.selected t && (u.failure? t l).isNone

def calls (i : Nat) (u : Turn σ B) : List (Event B) :=
  .asked i t :: if u.selected t then [.applied i u.builder t] else []

def told (u : Turn σ B) : List (Event B) :=
  (u.failure? t l).toList.map fun f => .notified (.pluginFailure t f)

def advance (u : Turn σ B) (g : Progress B) : Progress B where
  builder := u.builderAfter t l
  transformed := g.transformed || u.transforms t l
  failed := g.failed || (u.failure? t l).isSome

def verdict (u : Turn σ B) : Attempt B :=
  match u.failure? t l with
  | some f => .failed f
  | none => if u.selected t then .applied (u.builderAfter t l) else .passed

end Turn

theorem builderAfter_eq_of_not_transforms {t : TypeName} {l : Locator} {u : Turn σ B}
    (h : u.transforms t l = false) : u.builderAfter t l = u.builder := by
  unfold Turn.builderAfter
  split
  · rename_i b answered responded
    simp [Turn.transforms, Turn.selected, Turn.failure?, answered, responded] at h
  · rfl

theorem attempt_eq_verdict (p : Plugin σ B) (i : Nat) (b : B) (t : TypeName) (l : Locator) (s : σ) :
    p.attempt i b t l s =
      (Turn.verdict t l ⟨p, b, s⟩, Turn.calls t i ⟨p, b, s⟩, Turn.worldAfter t l ⟨p, b, s⟩) := by
  cases answer : p.selects t s with
  | mk said after =>
    cases said with
    | panicked m =>
      simp [Plugin.attempt, Turn.verdict, Turn.failure?, Turn.calls, Turn.worldAfter,
        Turn.selected, Turn.answer, answer]
    | returned selected =>
      cases selected with
      | false =>
        simp [Plugin.attempt, Turn.verdict, Turn.failure?, Turn.calls, Turn.worldAfter,
          Turn.selected, Turn.answer, answer]
      | true =>
        rcases response : p.apply b t l after with ⟨(f | b') | m, last⟩ <;>
          simp [Plugin.attempt, Turn.verdict, Turn.failure?, Turn.calls, Turn.worldAfter,
            Turn.builderAfter, Turn.selected, Turn.answer, Turn.response, answer, response]

def turns (t : TypeName) (l : Locator) : List (Plugin σ B) → B → σ → List (Turn σ B)
  | [], _, _ => []
  | p :: ps, b, s =>
    let u : Turn σ B := ⟨p, b, s⟩
    u :: turns t l ps (u.builderAfter t l) (u.worldAfter t l)

theorem turns_plugins (t : TypeName) (l : Locator) (ps : List (Plugin σ B)) (b : B) (s : σ) :
    (turns t l ps b s).map Turn.plugin = ps := by
  induction ps generalizing b s with
  | nil => rfl
  | cons p ps ih => rw [turns, List.map_cons, ih]

def afterTurns (t : TypeName) (l : Locator) : List (Plugin σ B) → B → σ → B × σ
  | [], b, s => (b, s)
  | p :: ps, b, s =>
    let u : Turn σ B := ⟨p, b, s⟩
    afterTurns t l ps (u.builderAfter t l) (u.worldAfter t l)

def progressAfter (t : TypeName) (l : Locator) (ps : List (Plugin σ B)) (g : Progress B) (s : σ) :
    Progress B where
  builder := (afterTurns t l ps g.builder s).1
  transformed := g.transformed || (turns t l ps g.builder s).any (Turn.transforms t l)
  failed := g.failed || (turns t l ps g.builder s).any fun u => (u.failure? t l).isSome

def turnEvents (t : TypeName) (l : Locator) (i : Nat) (us : List (Turn σ B)) : List (Event B) :=
  (us.zipIdx i).flatMap fun (u, j) => u.calls t j ++ u.told t l

section
variable (t : TypeName) (l : Locator) (i : Nat)

@[simp] theorem turnEvents_nil : turnEvents t l i ([] : List (Turn σ B)) = [] := rfl

@[simp] theorem turnEvents_cons (u : Turn σ B) (us : List (Turn σ B)) :
    turnEvents t l i (u :: us) = u.calls t i ++ u.told t l ++ turnEvents t l (i + 1) us := by
  simp [turnEvents, List.zipIdx_cons]

theorem turnEvents_append (us vs : List (Turn σ B)) :
    turnEvents t l i (us ++ vs) = turnEvents t l i us ++ turnEvents t l (i + us.length) vs := by
  induction us generalizing i with
  | nil => simp
  | cons u us ih =>
    rw [List.cons_append, turnEvents_cons, turnEvents_cons, ih]
    simp [Nat.add_comm, Nat.add_left_comm]

theorem turnEvents_at_failure {u : Turn σ B} {f : PluginFailure} (us vs : List (Turn σ B))
    (failing : u.failure? t l = some f) :
    turnEvents t l i (us ++ u :: vs) = turnEvents t l i us ++ u.calls t (i + us.length) ++
      .notified (.pluginFailure t f) :: turnEvents t l (i + us.length + 1) vs := by
  rw [turnEvents_append, turnEvents_cons, Turn.told, failing]
  simp

theorem calls_open (u : Turn σ B) : AllOpen (u.calls t i) := by
  unfold Turn.calls
  refine .cons rfl ?_
  split
  · exact .cons rfl .nil
  · exact .nil

theorem told_open (u : Turn σ B) : AllOpen (u.told t l) := by
  intro ev member
  simp only [Turn.told, List.mem_map] at member
  obtain ⟨f, _, rfl⟩ := member
  rfl

theorem turnEvents_open (us : List (Turn σ B)) : AllOpen (turnEvents t l i us) := by
  intro ev member
  simp only [turnEvents, List.mem_flatMap] at member
  obtain ⟨⟨u, j⟩, _, inside⟩ := member
  exact (calls_open t j u).append (told_open t l u) ev inside

theorem applications_of_turns (us : List (Turn σ B)) :
    applications (turnEvents t l i us) =
      ((us.zipIdx i).filter fun (u, _) => u.selected t).map fun (u, j) => (j, u.builder) := by
  induction us generalizing i with
  | nil => rfl
  | cons u us ih =>
    have quiet : applications (u.told t l) = [] := by
      cases failure : u.failure? t l <;> simp [Turn.told, failure, Event.application?]
    simp only [turnEvents_cons, List.filterMap_append, quiet, ih, List.zipIdx_cons]
    cases selected : u.selected t <;>
      simp [Turn.calls, selected, List.filterMap_cons, Event.application?]

theorem calls_notifications (u : Turn σ B) : notifications (u.calls t i) = [] := by
  cases selected : u.selected t <;>
    simp [Turn.calls, selected, notifications, Event.notification?]

/-- Listeners hear of each failing plugin, in turn, and of nothing else. -/
theorem notifications_of_turns (us : List (Turn σ B)) :
    notifications (turnEvents t l i us) =
      (us.filterMap (Turn.failure? t l)).map (Notification.pluginFailure t) := by
  induction us generalizing i with
  | nil => rfl
  | cons u us ih =>
    rw [turnEvents_cons, notifications_append, notifications_append, calls_notifications, ih]
    cases failure : u.failure? t l <;>
      simp [Turn.told, failure, notifications, Event.notification?]

theorem calls_failures (u : Turn σ B) : pluginFailures (u.calls t i) = [] := by
  cases selected : u.selected t <;> simp [Turn.calls, selected, Event.pluginFailure?]

theorem failures_of_turns (us : List (Turn σ B)) :
    pluginFailures (turnEvents t l i us) = (us.filterMap (Turn.failure? t l)).map (t, ·) := by
  induction us generalizing i with
  | nil => rfl
  | cons u us ih =>
    simp only [turnEvents_cons, List.filterMap_append, calls_failures, ih]
    cases failure : u.failure? t l <;> simp [Turn.told, failure, Event.pluginFailure?]

theorem mem_turnEvents {us : List (Turn σ B)} {ev : Event B} (member : ev ∈ turnEvents t l i us) :
    (∃ j, ev = .asked j t) ∨ (∃ j b, ev = .applied j b t) ∨
      ∃ f, ev = .notified (.pluginFailure t f) := by
  simp only [turnEvents, List.mem_flatMap, List.mem_append] at member
  obtain ⟨⟨u, j⟩, _, called | told⟩ := member
  · rcases List.mem_cons.mp called with rfl | applied
    · exact Or.inl ⟨j, rfl⟩
    · split at applied
      · exact Or.inr (Or.inl ⟨j, u.builder, List.mem_singleton.mp applied⟩)
      · simp at applied
  · obtain ⟨f, _, rfl⟩ := List.mem_map.mp told
    exact Or.inr (Or.inr ⟨f, rfl⟩)

theorem makings_of_turns (us : List (Turn σ B)) : makings (turnEvents t l i us) = [] := by
  refine List.filterMap_eq_nil_iff.mpr ?_
  intro ev member
  obtain ⟨j, rfl⟩ | ⟨j, b, rfl⟩ | ⟨f, rfl⟩ := mem_turnEvents t l i member <;> rfl

theorem replacements_of_turns (us : List (Turn σ B)) :
    replacements (turnEvents t l i us) = [] := by
  refine List.filterMap_eq_nil_iff.mpr ?_
  intro ev member
  obtain ⟨j, rfl⟩ | ⟨j, b, rfl⟩ | ⟨f, rfl⟩ := mem_turnEvents t l i member <;> rfl

theorem applyPlugins_of_fine_turn (policy : FailurePolicy) (p : Plugin σ B)
    (ps : List (Plugin σ B)) (g : Progress B) (s : σ)
    (fine : Turn.failure? t l ⟨p, g.builder, s⟩ = none) :
    let u : Turn σ B := ⟨p, g.builder, s⟩
    let rest := applyPlugins policy l t (i + 1) ps (u.advance t l g) (u.worldAfter t l)
    applyPlugins policy l t i (p :: ps) g s = (rest.1, u.calls t i ++ rest.2.1, rest.2.2) := by
  intro u rest
  rw [applyPlugins, attempt_eq_verdict, Turn.verdict, fine]
  cases selected : Turn.selected t ⟨p, g.builder, s⟩ with
  | true => simp [rest, u, Turn.advance, Turn.transforms, fine, selected]
  | false =>
    have kept : Turn.builderAfter t l ⟨p, g.builder, s⟩ = g.builder :=
      builderAfter_eq_of_not_transforms (by simp [Turn.transforms, selected])
    simp [rest, u, Turn.advance, Turn.transforms, fine, selected, kept]

/-- When no failure ends the run, the loop over the plugins goes through all turns. -/
theorem applyPlugins_proceed (ps : List (Plugin σ B)) (g : Progress B) (s : σ) :
    applyPlugins .proceed l t i ps g s =
      (.ok (progressAfter t l ps g s), turnEvents t l i (turns t l ps g.builder s),
        (afterTurns t l ps g.builder s).2) := by
  induction ps generalizing i g s with
  | nil => simp [applyPlugins, progressAfter, turns, afterTurns]
  | cons p ps ih =>
    rw [progressAfter, turns, afterTurns, turnEvents_cons]
    cases failure : Turn.failure? t l ⟨p, g.builder, s⟩ with
    | some f =>
      -- The next turn finds the builder that this one found, as the loop has it.
      have kept : Turn.builderAfter t l ⟨p, g.builder, s⟩ = g.builder :=
        builderAfter_eq_of_not_transforms (by simp [Turn.transforms, failure])
      rw [applyPlugins, attempt_eq_verdict]
      simp [Turn.verdict, failure, ih, kept, Turn.told, Turn.transforms, progressAfter]
    | none =>
      rw [applyPlugins_of_fine_turn _ _ _ _ _ _ _ _ failure, ih]
      simp [Turn.advance, failure, Turn.told, progressAfter, Bool.or_assoc]

theorem first_failing_turn (us : List (Turn σ B)) :
    (∀ u ∈ us, u.failure? t l = none) ∨ ∃ vs u ws f, us = vs ++ u :: ws ∧
      (∀ v ∈ vs, v.failure? t l = none) ∧ u.failure? t l = some f := by
  induction us with
  | nil => exact Or.inl (by simp)
  | cons u us ih =>
    cases failure : u.failure? t l with
    | some f => exact Or.inr ⟨[], u, us, f, rfl, by simp, failure⟩
    | none =>
      rcases ih with fine | ⟨vs, v, ws, f, rfl, fine, failing⟩
      · exact Or.inl (List.forall_mem_cons.mpr ⟨failure, fine⟩)
      · exact Or.inr ⟨u :: vs, v, ws, f, rfl, List.forall_mem_cons.mpr ⟨failure, fine⟩, failing⟩

theorem applyPlugins_failFast_of_fine (notify : Bool) (ps : List (Plugin σ B)) (g : Progress B)
    (s : σ) (fine : ∀ u ∈ turns t l ps g.builder s, u.failure? t l = none) :
    applyPlugins (.failFast notify) l t i ps g s = applyPlugins .proceed l t i ps g s := by
  induction ps generalizing i g s with
  | nil => rfl
  | cons p ps ih =>
    obtain ⟨first, rest⟩ := List.forall_mem_cons.mp fine
    rw [applyPlugins_of_fine_turn _ _ _ _ _ _ _ _ first,
      applyPlugins_of_fine_turn _ _ _ _ _ _ _ _ first, ih _ (Turn.advance t l _ g) _ rest]

/-- The first failing plugin ends the run, right after its own calls. -/
theorem applyPlugins_failFast_of_failing (notify : Bool) (ps : List (Plugin σ B)) (g : Progress B)
    (s : σ) {us vs : List (Turn σ B)} {u : Turn σ B} {f : PluginFailure}
    (laid : turns t l ps g.builder s = us ++ u :: vs)
    (fine : ∀ v ∈ us, v.failure? t l = none) (failing : u.failure? t l = some f) :
    applyPlugins (.failFast notify) l t i ps g s =
      (.error (.plugin t.name f),
        turnEvents t l i us ++ u.calls t (i + us.length) ++
          (if notify then [.notified (.pluginFailure t f)] else []), u.worldAfter t l) := by
  induction ps generalizing i g s us with
  | nil => simp [turns] at laid
  | cons p ps ih =>
    rw [turns] at laid
    cases us with
    | nil =>
      obtain ⟨rfl, _⟩ := List.cons.inj laid
      rw [applyPlugins, attempt_eq_verdict, Turn.verdict]
      simp [failing]
    | cons v us =>
      obtain ⟨rfl, later⟩ := List.cons.inj laid
      obtain ⟨first, rest⟩ := List.forall_mem_cons.mp fine
      have place : i + 1 + us.length = i + (us.length + 1) := by omega
      rw [applyPlugins_of_fine_turn _ _ _ _ _ _ _ _ first,
        ih _ (Turn.advance t l _ g) _ later rest]
      simp [Turn.told, first, place]

theorem applyPlugins_of_fine (policy : FailurePolicy) (ps : List (Plugin σ B)) (g : Progress B)
    (s : σ) (fine : ∀ u ∈ turns t l ps g.builder s, u.failure? t l = none) :
    applyPlugins policy l t i ps g s =
      (.ok (progressAfter t l ps g s), turnEvents t l i (turns t l ps g.builder s),
        (afterTurns t l ps g.builder s).2) := by
  cases policy with
  | proceed => exact applyPlugins_proceed t l i ps g s
  | failFast notify =>
    rw [applyPlugins_failFast_of_fine t l i notify ps g s fine, applyPlugins_proceed]

theorem applyPlugins_subset (policy : FailurePolicy) (ps : List (Plugin σ B)) (g : Progress B)
    (s : σ) :
    (applyPlugins policy l t i ps g s).2.1 ⊆ turnEvents t l i (turns t l ps g.builder s) := by
  rcases first_failing_turn t l (turns t l ps g.builder s) with
    fine | ⟨us, u, vs, f, laid, fine, failing⟩
  · rw [applyPlugins_of_fine t l i policy ps g s fine]
    exact List.Subset.refl _
  · cases policy with
    | proceed =>
      rw [applyPlugins_proceed]
      exact List.Subset.refl _
    | failFast notify =>
      rw [applyPlugins_failFast_of_failing t l i notify ps g s laid fine failing, laid,
        turnEvents_at_failure t l i us vs failing]
      refine List.append_subset.mpr ⟨List.subset_append_left _ _, ?_⟩
      cases notify <;> simp

theorem applyPlugins_open (policy : FailurePolicy) (ps : List (Plugin σ B)) (g : Progress B)
    (s : σ) : AllOpen (applyPlugins policy l t i ps g s).2.1 := by
  intro ev member
  exact turnEvents_open t l i _ ev (applyPlugins_subset t l i policy ps g s member)

theorem applyPlugins_makings (policy : FailurePolicy) (ps : List (Plugin σ B)) (g : Progress B)
    (s : σ) : makings (applyPlugins policy l t i ps g s).2.1 = [] := by
  refine List.filterMap_eq_nil_iff.mpr ?_
  intro ev member
  exact List.filterMap_eq_nil_iff.mp (makings_of_turns t l i _) ev
    (applyPlugins_subset t l i policy ps g s member)

theorem applyPlugins_replacements (policy : FailurePolicy) (ps : List (Plugin σ B)) (g : Progress B)
    (s : σ) : replacements (applyPlugins policy l t i ps g s).2.1 = [] := by
  refine List.filterMap_eq_nil_iff.mpr ?_
  intro ev member
  exact List.filterMap_eq_nil_iff.mp (replacements_of_turns t l i _) ev
    (applyPlugins_subset t l i policy ps g s member)

end

section
variable {t : TypeName} {l : Locator} {ps : List (Plugin σ B)} {b : B} {s : σ}

theorem progress_failed_iff :
    (progressAfter t l ps ⟨b, false, false⟩ s).failed = true ↔
      ∃ u ∈ turns t l ps b s, (u.failure? t l).isSome := by
  simp [progressAfter]

theorem progress_failed_eq_false (fine : ∀ u ∈ turns t l ps b s, u.failure? t l = none) :
    (progressAfter t l ps ⟨b, false, false⟩ s).failed = false := by
  rw [← Bool.not_eq_true, progress_failed_iff]
  rintro ⟨u, member, failing⟩
  simp [fine u member] at failing

theorem progress_transformed_iff (fine : ∀ u ∈ turns t l ps b s, u.failure? t l = none) :
    (progressAfter t l ps ⟨b, false, false⟩ s).transformed = true ↔
      ∃ u ∈ turns t l ps b s, u.selected t = true := by
  simp only [progressAfter, Bool.false_or, List.any_eq_true, Turn.transforms, Bool.and_eq_true]
  constructor
  · rintro ⟨u, member, selected, _⟩
    exact ⟨u, member, selected⟩
  · rintro ⟨u, member, selected⟩
    exact ⟨u, member, selected, by rw [fine u member]; rfl⟩

end

end ClassForge
