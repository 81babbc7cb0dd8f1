import ClassForge.Proofs.SelectorParts
import Mathlib.Data.List.Forall2

/-!
Selectors that are put together step by step: negated, or joined with another selector. A step adds
a member to a head of its own kind and puts every other head into a new one, so that what is joined
stays one part, whatever comes after it.
-/
namespace ClassForge.Selector
open List (Forall₂)
variable {π : Type}

inductive Extension (π : Type) where
  | negated
  | also (other : Selector π)
  | orElse (other : Selector π)
  deriving Repr

namespace Extension

def onto (s : Selector π) : Extension π → Selector π
  | .negated => .except s
  | .also other => s.and other
  | .orElse other => s.or other

/-- What a step makes of a verdict, when others are judged so. -/
def judge (verdict : Selector π → Bool) (before : Bool) : Extension π → Bool
  | .negated => !before
  | .also other => before && verdict other
  | .orElse other => before || verdict other

def operands : Extension π → List (Selector π)
  | .negated => []
  | .also other => [other]
  | .orElse other => [other]

end Extension

def extended (s : Selector π) (steps : List (Extension π)) : Selector π :=
  steps.foldl Extension.onto s

/-- One step: only a head of the step's own kind takes the other selector in, as one member more. -/
inductive Grows : Selector π → Extension π → Selector π → Prop where
  | negated {s} : Grows s .negated (.except s)
  | conjunct {ms other} : Grows (.allOf ms) (.also other) (.allOf (ms ++ [other]))
  | disjunct {ms other} : Grows (.anyOf ms) (.orElse other) (.anyOf (ms ++ [other]))
  | both {s other} (apart : ∀ ms, s ≠ .allOf ms) : Grows s (.also other) (.allOf [s, other])
  | either {s other} (apart : ∀ ms, s ≠ .anyOf ms) : Grows s (.orElse other) (.anyOf [s, other])

inductive GrowsAlong : Selector π → List (Extension π) → Selector π → Prop where
  | none {s} : GrowsAlong s [] s
  | step {s x m xs s'} (first : Grows s x m) (rest : GrowsAlong m xs s') :
      GrowsAlong s (x :: xs) s'

/-- Neither part is in the other one, and the first is to the left of the second. -/
inductive LeftOf : List Nat → List Nat → Prop where
  | here {i j address address'} (first : i < j) : LeftOf (i :: address) (j :: address')
  | inside {i address address'} (deeper : LeftOf address address') :
      LeftOf (i :: address) (i :: address')

/-- These are among the first `n` members and the parts of them, from left to right and apart from
each other. -/
def Keeps (n : Nat) (s : Selector π) (parts : List (Selector π)) : Prop :=
  ∃ addresses : List (List Nat), addresses.Pairwise LeftOf ∧
    (∀ address ∈ addresses, ∃ i < n, address.head? = some i) ∧
    Forall₂ (fun address part => s.part? address = some part) addresses parts

structure PutTogether (s : Matcher) (steps : List (Extension NamePattern)) : Prop where
  accepts_eq : ∀ t, (s.extended steps).accepts t =
    steps.foldl (Extension.judge (accepts t)) (s.accepts t)
  grows : GrowsAlong s steps (s.extended steps)
  /-- No member of the start and nothing that is joined to it is taken apart. -/
  keeps : Keeps (s.extended steps).members.length (s.extended steps)
    (s.members ++ steps.flatMap Extension.operands)

variable {s s' other : Selector π} {x : Extension π} {parts : List (Selector π)} {n : Nat}

theorem grows_onto (s : Selector π) (x : Extension π) : Grows s x (x.onto s) := by
  cases x with
  | negated => exact .negated
  | also other =>
    cases s with
    | allOf ms => exact .conjunct
    | _ => exact .both nofun
  | orElse other =>
    cases s with
    | anyOf ms => exact .disjunct
    | _ => exact .either nofun

theorem grows_along_extended (s : Selector π) (steps : List (Extension π)) :
    GrowsAlong s steps (s.extended steps) := by
  induction steps generalizing s with
  | nil => exact .none
  | cons x steps ih => exact .step (grows_onto s x) (ih (x.onto s))

theorem accepts_onto (t : TypeName) (s : Matcher) (x : Extension NamePattern) :
    (x.onto s).accepts t = x.judge (accepts t) (s.accepts t) := by
  have grows := grows_onto s x
  generalize x.onto s = s' at grows
  cases grows with
  | negated => rfl
  | conjunct => simp [accepts, Extension.judge, acceptedByAll_eq]
  | disjunct => simp [accepts, Extension.judge, acceptedByAny_eq]
  | both => simp [accepts, Extension.judge, acceptedByAll_eq]
  | either => simp [accepts, Extension.judge, acceptedByAny_eq]

theorem accepts_extended (t : TypeName) (s : Matcher) (steps : List (Extension NamePattern)) :
    (s.extended steps).accepts t = steps.foldl (Extension.judge (accepts t)) (s.accepts t) := by
  induction steps generalizing s with
  | nil => rfl
  | cons x steps ih =>
    rw [List.foldl_cons, ← accepts_onto]
    exact ih (x.onto s)

namespace Keeps

theorem nothing (s : Selector π) : Keeps 0 s [] := ⟨[], .nil, nofun, .nil⟩

theorem next (h : Keeps n s parts) (there : s.members[n]? = some other) :
    Keeps (n + 1) s (parts ++ [other]) := by
  obtain ⟨addresses, ordered, low, kept⟩ := h
  refine ⟨addresses ++ [[n]], ?_, ?_, ?_⟩
  · refine List.pairwise_append.mpr ⟨ordered, List.pairwise_singleton _ _, ?_⟩
    intro address member
    obtain ⟨i, first, head⟩ := low address member
    obtain ⟨rest, rfl⟩ := List.head?_eq_some_iff.mp head
    exact List.forall_mem_singleton.mpr (.here first)
  · intro address member
    rcases List.mem_append.mp member with old | new
    · obtain ⟨i, first, head⟩ := low address old
      exact ⟨i, Nat.lt_succ_of_lt first, head⟩
    · obtain rfl := List.mem_singleton.mp new
      exact ⟨n, Nat.lt_succ_self n, rfl⟩
  · exact List.rel_append kept (.cons (part?_cons.mpr ⟨other, there, rfl⟩) .nil)

theorem ofMembers (s : Selector π) : Keeps s.members.length s s.members := by
  have first (k : Nat) (within : k ≤ s.members.length) : Keeps k s (s.members.take k) := by
    induction k with
    | zero => exact nothing s
    | succ k ih =>
      rw [← List.take_append_getElem within]
      exact (ih (Nat.le_of_succ_le within)).next (List.getElem?_eq_getElem within)
  simpa using first s.members.length (Nat.le_refl _)

theorem wrapped (h : Keeps n s parts) (there : s'.members[0]? = some s) : Keeps 1 s' parts := by
  obtain ⟨addresses, ordered, -, kept⟩ := h
  refine ⟨addresses.map (0 :: ·), List.pairwise_map.mpr (ordered.imp .inside), ?_, ?_⟩
  · intro address member
    obtain ⟨rest, -, rfl⟩ := List.mem_map.mp member
    exact ⟨0, Nat.zero_lt_one, rfl⟩
  · rw [List.forall₂_map_left_iff]
    exact kept.imp fun address part here => part?_cons.mpr ⟨s, there, here⟩

theorem besides (h : Keeps n s parts)
    (same : ∀ (i : Nat) (m : Selector π), s.members[i]? = some m → s'.members[i]? = some m) :
    Keeps n s' parts := by
  obtain ⟨addresses, ordered, low, kept⟩ := h
  have inside := (List.forall₂_and_left _ _).mpr ⟨low, kept⟩
  refine ⟨addresses, ordered, low, inside.imp ?_⟩
  rintro address part ⟨⟨i, -, head⟩, here⟩
  obtain ⟨rest, rfl⟩ := List.head?_eq_some_iff.mp head
  obtain ⟨m, there, below⟩ := part?_cons.mp here
  exact part?_cons.mpr ⟨m, same i m there, below⟩

theorem appended (h : Keeps s.members.length s parts)
    (longer : s'.members = s.members ++ [other]) :
    Keeps s'.members.length s' (parts ++ [other]) := by
  have kept : Keeps s.members.length s' parts := h.besides fun i m there => by
    rw [longer, List.getElem?_append_left (List.getElem?_eq_some_iff.mp there).1, there]
  rw [longer, List.length_append]
  exact kept.next (by rw [longer, List.getElem?_concat_length])

theorem grown (h : Keeps s.members.length s parts) (grows : Grows s x s') :
    Keeps s'.members.length s' (parts ++ x.operands) := by
  cases grows with
  | negated =>
    rw [Extension.operands, List.append_nil]
    exact h.wrapped rfl
  | conjunct => exact h.appended rfl
  | disjunct => exact h.appended rfl
  | both => exact (h.wrapped rfl).next rfl
  | either => exact (h.wrapped rfl).next rfl

theorem extended (h : Keeps s.members.length s parts) (steps : List (Extension π)) :
    Keeps (s.extended steps).members.length (s.extended steps)
      (parts ++ steps.flatMap Extension.operands) := by
  induction steps generalizing s parts with
  | nil => simpa [Selector.extended] using h
  | cons x steps ih =>
    have first := ih (h.grown (grows_onto s x))
    rwa [List.append_assoc] at first

end Keeps

/-- Whatever the start is, the verdict is the one that the steps make of the verdicts. A step adds to
a head of its own kind or puts the head into a new one, and what is joined stays whole. -/
theorem extended_put_together (s : Matcher) (steps : List (Extension NamePattern)) :
    PutTogether s steps where
  accepts_eq t := accepts_extended t s steps
  grows := grows_along_extended s steps
  keeps := (Keeps.ofMembers s).extended steps

end ClassForge.Selector
