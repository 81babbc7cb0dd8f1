import ClassForge.Proofs.PluginForests
import ClassForge.Proofs.PluginTurns

/-!
What a compound asks of its members. A plugin that notes every call of it answers as before, so the
notes tell which members are asked and applied, in which order, and where the compound stops. Since
a compound is its leaves, forests that are regrouped make the same calls.
-/
namespace ClassForge
variable {σ B : Type}

/-- What comes up to the first that is to stop at, with it. -/
def upTo {α : Type} (stop : α → Bool) : List α → List α
  | [] => []
  | x :: xs => if stop x then [x] else x :: upTo stop xs

theorem upTo_of_none {α : Type} {stop : α → Bool} {xs : List α} (on : ∀ x ∈ xs, stop x = false) :
    upTo stop xs = xs := by
  induction xs with
  | nil => rfl
  | cons x xs ih =>
    obtain ⟨first, rest⟩ := List.forall_mem_cons.mp on
    rw [upTo, first, ih rest]
    rfl

theorem upTo_of_first {α : Type} {stop : α → Bool} {xs ys : List α} {x : α}
    (on : ∀ x ∈ xs, stop x = false) (last : stop x = true) :
    upTo stop (xs ++ x :: ys) = xs ++ [x] := by
  induction xs with
  | nil => simp [upTo, last]
  | cons y xs ih =>
    obtain ⟨first, rest⟩ := List.forall_mem_cons.mp on
    rw [List.cons_append, upTo, first, ih rest]
    rfl

/-- The plugin at a place of a compound, with a note of every call of it. -/
def Plugin.noting (place : Nat) (p : Plugin σ B) : Plugin (σ × List (Event B)) B where
  name := p.name
  selects t s :=
    let (said, after) := p.selects t s.1
    (said, after, s.2 ++ [.asked place t])
  apply b t l s :=
    let (made, after) := p.apply b t l s.1
    (made, after, s.2 ++ [.applied place b t])

def notingFrom (place : Nat) : List (Plugin σ B) → List (Plugin (σ × List (Event B)) B)
  | [] => []
  | p :: ps => p.noting place :: notingFrom (place + 1) ps

/-- What the plugins say to the type, each in the state that the one before it leaves. -/
def answers (t : TypeName) : List (Plugin σ B) → σ → List (Call Bool)
  | [], _ => []
  | p :: ps, s => (p.selects t s).1 :: answers t ps (p.selects t s).2

/-- An answer after which no other plugin has to be asked. -/
def decisive : Call Bool → Bool
  | .returned false => false
  | _ => true

/-- How a turn ends a compound, or what it hands on. -/
def Turn.ending (t : TypeName) (l : Locator) (u : Turn σ B) : Call (Except PluginFailure B) :=
  match (u.answer t).1 with
  | .panicked m => .panicked m
  | .returned false => .returned (.ok u.builder)
  | .returned true => (u.response t l).1

def Turn.fails (t : TypeName) (l : Locator) (u : Turn σ B) : Bool := (u.failure? t l).isSome

def turnCalls (t : TypeName) (place : Nat) : List (Turn σ B) → List (Event B)
  | [] => []
  | u :: us => u.calls t place ++ turnCalls t (place + 1) us

namespace Compound

def noting (c : Compound σ B) : Compound (σ × List (Event B)) B := ⟨notingFrom 0 c.plugins⟩

theorem anySelects_eq (t : TypeName) (ps : List (Plugin σ B)) (s : σ) :
    (anySelects t ps s).1 = ((answers t ps s).find? decisive).getD (.returned false) := by
  induction ps generalizing s with
  | nil => rfl
  | cons p ps ih =>
    rw [anySelects, answers, List.find?_cons]
    rcases p.selects t s with ⟨(_ | _) | m, after⟩
    · exact ih after
    · rfl
    · rfl

theorem anySelects_of_said {t : TypeName} {ps : List (Plugin σ B)} {s : σ} {said : List Bool}
    (answered : answers t ps s = said.map .returned) :
    (anySelects t ps s).1 = .returned (said.any id) := by
  rw [anySelects_eq, answered]
  clear answered
  induction said with
  | nil => rfl
  | cons yes said ih =>
    rw [List.map_cons, List.find?_cons]
    cases yes with
    | false => exact ih
    | true => rfl

theorem anySelects_noting (t : TypeName) (place : Nat) (ps : List (Plugin σ B)) (s : σ)
    (log : List (Event B)) :
    anySelects t (notingFrom place ps) (s, log) =
      ((anySelects t ps s).1, (anySelects t ps s).2, log ++
        (List.range' place (upTo decisive (answers t ps s)).length).map (.asked · t)) := by
  induction ps generalizing place s log with
  | nil => simp [notingFrom, anySelects, answers, upTo]
  | cons p ps ih =>
    rw [notingFrom, anySelects, anySelects, answers, upTo]
    rcases answer : p.selects t s with ⟨(_ | _) | m, after⟩ <;>
      simp [Plugin.noting, answer, decisive, ih, List.range'_succ]

theorem applyInTurn_eq (t : TypeName) (l : Locator) (ps : List (Plugin σ B)) (b : B) (s : σ) :
    (applyInTurn t l ps b s).1 =
      (((turns t l ps b s).find? (Turn.fails t l)).map (Turn.ending t l)).getD
        (.returned (.ok (afterTurns t l ps b s).1)) := by
  induction ps generalizing b s with
  | nil => rfl
  | cons p ps ih =>
    rw [applyInTurn, turns, afterTurns]
    rcases answer : p.selects t s with ⟨(_ | _) | m, after⟩
    · simp [ih, Turn.fails, Turn.failure?, Turn.builderAfter, Turn.worldAfter, Turn.selected,
        Turn.answer, answer]
    · rcases response : p.apply b t l after with ⟨(f | b') | m, last⟩
      · simp [response, Turn.fails, Turn.failure?, Turn.ending, Turn.answer, Turn.response, answer]
      · simp [response, ih, Turn.fails, Turn.failure?, Turn.builderAfter, Turn.worldAfter,
          Turn.selected, Turn.answer, Turn.response, answer]
      · simp [response, Turn.fails, Turn.failure?, Turn.ending, Turn.answer, Turn.response, answer]
    · simp [Turn.fails, Turn.failure?, Turn.ending, Turn.answer, answer]

theorem applyInTurn_noting (t : TypeName) (l : Locator) (place : Nat) (ps : List (Plugin σ B))
    (b : B) (s : σ) (log : List (Event B)) :
    applyInTurn t l (notingFrom place ps) b (s, log) =
      ((applyInTurn t l ps b s).1, (applyInTurn t l ps b s).2, log ++
        turnCalls t place (upTo (Turn.fails t l) (turns t l ps b s))) := by
  induction ps generalizing place b s log with
  | nil => simp [notingFrom, applyInTurn, turns, upTo, turnCalls]
  | cons p ps ih =>
    rw [notingFrom, applyInTurn, applyInTurn, turns, upTo]
    rcases answer : p.selects t s with ⟨(_ | _) | m, after⟩
    · simp [Plugin.noting, answer, ih, Turn.fails, Turn.failure?, Turn.builderAfter,
        Turn.worldAfter, Turn.selected, Turn.answer, Turn.calls, turnCalls]
    · rcases response : p.apply b t l after with ⟨(f | b') | m, last⟩ <;>
        simp [Plugin.noting, answer, response, ih, Turn.fails, Turn.failure?, Turn.builderAfter,
          Turn.worldAfter, Turn.selected, Turn.answer, Turn.response, Turn.calls, turnCalls]
    · simp [Plugin.noting, answer, Turn.fails, Turn.failure?, Turn.selected, Turn.answer,
        Turn.calls, turnCalls]

/-- The members are asked one after the other, up to the first that does not say no. -/
structure AsksInTurn (c : Compound σ B) (t : TypeName) (s : σ) : Prop where
  alike : ∀ log, (c.noting.toPlugin.selects t (s, log)).1 = (c.toPlugin.selects t s).1 ∧
    (c.noting.toPlugin.selects t (s, log)).2.1 = (c.toPlugin.selects t s).2
  disjunction : ∀ said : List Bool, answers t c.plugins s = said.map .returned →
    (c.toPlugin.selects t s).1 = .returned (said.any id)
  refused : (∀ no ∈ answers t c.plugins s, decisive no = false) →
    (c.toPlugin.selects t s).1 = .returned false ∧
      ∀ log, (c.noting.toPlugin.selects t (s, log)).2.2 =
        log ++ (List.range c.plugins.length).map (.asked · t)
  decided : ∀ noes answer later, answers t c.plugins s = noes ++ answer :: later →
    (∀ no ∈ noes, decisive no = false) → decisive answer = true →
      (c.toPlugin.selects t s).1 = answer ∧
        ∀ log, (c.noting.toPlugin.selects t (s, log)).2.2 =
          log ++ (List.range (noes.length + 1)).map (.asked · t)

/-- The members that are for the type are applied one after the other, each right after it is asked
and to what the one before it made, up to the first that fails. -/
structure AppliesInTurn (c : Compound σ B) (b : B) (t : TypeName) (l : Locator) (s : σ) :
    Prop where
  alike : ∀ log, (c.noting.toPlugin.apply b t l (s, log)).1 = (c.toPlugin.apply b t l s).1 ∧
    (c.noting.toPlugin.apply b t l (s, log)).2.1 = (c.toPlugin.apply b t l s).2
  finished : (∀ u ∈ turns t l c.plugins b s, u.failure? t l = none) →
    (c.toPlugin.apply b t l s).1 = .returned (.ok (afterTurns t l c.plugins b s).1) ∧
      ∀ log, (c.noting.toPlugin.apply b t l (s, log)).2.2 =
        log ++ turnCalls t 0 (turns t l c.plugins b s)
  stopped : ∀ us u vs f, turns t l c.plugins b s = us ++ u :: vs →
    (∀ v ∈ us, v.failure? t l = none) → u.failure? t l = some f →
      (c.toPlugin.apply b t l s).1 = u.ending t l ∧
        ∀ log, (c.noting.toPlugin.apply b t l (s, log)).2.2 = log ++ turnCalls t 0 (us ++ [u])

theorem answers_length (t : TypeName) (ps : List (Plugin σ B)) (s : σ) :
    (answers t ps s).length = ps.length := by
  induction ps generalizing s with
  | nil => rfl
  | cons p ps ih => rw [answers, List.length_cons, ih, List.length_cons]

theorem asks_in_turn (c : Compound σ B) (t : TypeName) (s : σ) : c.AsksInTurn t s := by
  have noted : ∀ log, c.noting.toPlugin.selects t (s, log) = _ :=
    anySelects_noting t 0 c.plugins s
  have verdict : (c.toPlugin.selects t s).1 = _ := anySelects_eq t c.plugins s
  constructor
  case alike => exact fun log => by rw [noted log]; exact ⟨rfl, rfl⟩
  case disjunction => exact fun said answered => anySelects_of_said answered
  case refused =>
    intro noes
    have none : (answers t c.plugins s).find? decisive = none :=
      List.find?_eq_none.mpr fun no member => by simp [noes no member]
    refine ⟨by rw [verdict, none]; rfl, fun log => ?_⟩
    rw [noted log, upTo_of_none noes, answers_length, List.range_eq_range']
  case decided =>
    intro noes answer later laid refused last
    have first : (answers t c.plugins s).find? decisive = some answer :=
      List.find?_eq_some_iff_append.mpr
        ⟨last, noes, later, laid, fun no member => by simp [refused no member]⟩
    refine ⟨by rw [verdict, first]; rfl, fun log => ?_⟩
    rw [noted log, laid, upTo_of_first refused last, List.length_append, List.range_eq_range']
    rfl

theorem applies_in_turn (c : Compound σ B) (b : B) (t : TypeName) (l : Locator) (s : σ) :
    c.AppliesInTurn b t l s := by
  have noted : ∀ log, c.noting.toPlugin.apply b t l (s, log) = _ :=
    applyInTurn_noting t l 0 c.plugins b s
  have result : (c.toPlugin.apply b t l s).1 = _ := applyInTurn_eq t l c.plugins b s
  constructor
  case alike => exact fun log => by rw [noted log]; exact ⟨rfl, rfl⟩
  case finished =>
    intro fine
    have on : ∀ u ∈ turns t l c.plugins b s, Turn.fails t l u = false :=
      fun u member => by simp [Turn.fails, fine u member]
    have none : (turns t l c.plugins b s).find? (Turn.fails t l) = none :=
      List.find?_eq_none.mpr fun u member => by simp [on u member]
    exact ⟨by rw [result, none]; rfl, fun log => by rw [noted log, upTo_of_none on]⟩
  case stopped =>
    intro us u vs f laid fine failing
    have on : ∀ v ∈ us, Turn.fails t l v = false :=
      fun v member => by simp [Turn.fails, fine v member]
    have fails : Turn.fails t l u = true := by simp [Turn.fails, failing]
    have first : (turns t l c.plugins b s).find? (Turn.fails t l) = some u :=
      List.find?_eq_some_iff_append.mpr
        ⟨fails, us, vs, laid, fun v member => by simp [on v member]⟩
    exact ⟨by rw [result, first]; rfl, fun log => by rw [noted log, laid, upTo_of_first on fails]⟩

structure Flattens (c : Compound σ B) (trees : List (PluginTree σ B)) : Prop where
  leaves : PluginTree.ListsLeaves trees c.plugins
  plain : ∀ p ∈ c.plugins,
    (PluginTree.single p).isNoop = false ∧ (PluginTree.single p).members? = none
  again : ofTrees (c.plugins.map .single) = c
  regrouped : ∀ trees', PluginTree.Regrouped trees trees' ↔ ofTrees trees' = c
  asks : ∀ t s, c.AsksInTurn t s
  applies : ∀ b t l s, c.AppliesInTurn b t l s

/-- The compound of a forest has the leaves of the forest as its members, whatever else forests are
made of, and calls nothing but them. -/
theorem forest_flattens (trees : List (PluginTree σ B)) : (ofTrees trees).Flattens trees where
  leaves := PluginTree.flattenAll_listsLeaves trees
  plain _ _ := ⟨rfl, rfl⟩
  again := congrArg Compound.mk (PluginTree.flattenAll_singles _)
  regrouped _ := PluginTree.regrouped_iff.trans
    ⟨congrArg Compound.mk, congrArg Compound.plugins⟩
  asks := asks_in_turn _
  applies := applies_in_turn _

end Compound
end ClassForge
