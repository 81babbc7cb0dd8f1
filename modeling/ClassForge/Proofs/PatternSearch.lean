import ClassForge.Pattern.Basic
import Mathlib.Tactic.ByContra

/-!
What a pattern matches, without regard to how it is searched for, and that the search by sets of
places finds exactly that. A match spans from one place to another. Repetition is a walk of so many
matches; among the walks between two places there is always one of no more steps than there are
characters between them, so that the search may stop after that many rounds.
-/
namespace ClassForge.Pattern

inductive Walk (step : Nat → Nat → Prop) : Nat → Nat → Nat → Prop where
  | arrived {i} : Walk step 0 i i
  | next {n i j k} (first : step i j) (rest : Walk step n j k) : Walk step (n + 1) i k

variable {text : Array Char} {step : Nat → Nat → Prop} {f : List Nat → List Nat}
  {n i j k : Nat} {seen fresh places : List Nat}

namespace Walk

theorem append {m : Nat} (first : Walk step n i j) (second : Walk step m j k) :
    Walk step (m + n) i k := by
  induction first with
  | arrived => exact second
  | next first _ ih => exact .next first (ih second)

theorem split {m : Nat} (walk : Walk step (m + n) i k) :
    ∃ j, Walk step n i j ∧ Walk step m j k := by
  induction n generalizing i with
  | zero => exact ⟨i, .arrived, walk⟩
  | succ n ih =>
    cases walk with
    | next first rest =>
      obtain ⟨j, inner, outer⟩ := ih rest
      exact ⟨j, .next first inner, outer⟩

theorem keeps {keep : Nat → Prop} (kept : ∀ i j, keep i → step i j → keep j)
    (walk : Walk step n i j) (start : keep i) : keep j := by
  induction walk with
  | arrived => exact start
  | next first _ ih => exact ih (kept _ _ start first)

theorem le (ascends : ∀ i j, step i j → i ≤ j) (walk : Walk step n i j) : i ≤ j :=
  walk.keeps (fun _ _ low first => Nat.le_trans low (ascends _ _ first)) (Nat.le_refl i)

theorem shorten (ascends : ∀ i j, step i j → i ≤ j) (walk : Walk step n i j) :
    ∃ m ≤ n, i + m ≤ j ∧ Walk step m i j := by
  induction walk with
  | arrived => exact ⟨0, Nat.le_refl 0, Nat.le_refl _, .arrived⟩
  | @next n i j k first rest ih =>
    obtain ⟨m, fewer, short, walk⟩ := ih
    rcases Nat.eq_or_lt_of_le (ascends i j first) with rfl | further
    · exact ⟨m, Nat.le_succ_of_le fewer, short, walk⟩
    · exact ⟨m + 1, Nat.succ_le_succ fewer, by omega, .next first walk⟩

end Walk

/-- A match of a pattern may span from one place to another. -/
def Spans (text : Array Char) : Tree → Nat → Nat → Prop
  | .empty, i, j => j = i
  | .one set, i, j => j = i + 1 ∧ ∃ c, text[i]? = some c ∧ set.mem c = true
  | .look condition, i, j => j = i ∧ condition.holds (charBefore text i) text[i]? = true
  | .both a b, i, j => ∃ k, Spans text a i k ∧ Spans text b k j
  | .either a b, i, j => Spans text a i j ∨ Spans text b i j
  | .repeated inner least most, i, j =>
    -- a most that is less than the least does not count
    ∃ n, least ≤ n ∧ (∀ m, most = some m → n ≤ max least m) ∧ Walk (Spans text inner) n i j

def Tree.OccursIn (p : Tree) (text : String) : Prop :=
  ∃ i j, i ≤ text.toList.length ∧ Spans text.toList.toArray p i j

/-- On places up to `size`, a function goes to all places that are one step further. -/
structure Follows (size : Nat) (f : List Nat → List Nat) (step : Nat → Nat → Prop) : Prop where
  ascends : ∀ {i j}, step i j → i ≤ j
  inside : ∀ {i j}, step i j → i ≤ size → j ≤ size
  mem_iff : ∀ {places j}, (∀ i ∈ places, i ≤ size) → (j ∈ f places ↔ ∃ i ∈ places, step i j)

theorem mem_mergePlaces {a b : List Nat} : i ∈ mergePlaces a b ↔ i ∈ a ∨ i ∈ b := by
  have undoubled (xs : List Nat) : i ∈ xs.foldr
      (fun x acc => if acc.head? == some x then acc else x :: acc) [] ↔ i ∈ xs := by
    induction xs with
    | nil => rfl
    | cons x xs ih =>
      rw [List.foldr_cons, List.mem_cons]
      split
      · rename_i doubled
        have again := List.mem_of_head? (beq_iff_eq.mp doubled)
        rw [ih, or_iff_right_of_imp]
        rintro rfl
        exact ih.mp again
      · rw [List.mem_cons, ih]
  rw [mergePlaces, undoubled, List.mem_merge]

namespace Follows
variable {size : Nat} {step' : Nat → Nat → Prop} {g : List Nat → List Nat}

theorem within (h : Follows size f step) (low : ∀ i ∈ places, i ≤ size) :
    ∀ i ∈ f places, i ≤ size := by
  intro j member
  obtain ⟨i, here, first⟩ := (h.mem_iff low).mp member
  exact h.inside first (low i here)

theorem stays : Follows size (fun places => places) (fun i j => j = i) where
  ascends same := Nat.le_of_eq same.symm
  inside same low := same ▸ low
  mem_iff _ := by simp

theorem both (first : Follows size f step) (second : Follows size g step') :
    Follows size (fun places => g (f places)) (fun i j => ∃ k, step i k ∧ step' k j) where
  ascends := by
    rintro i j ⟨k, left, right⟩
    exact Nat.le_trans (first.ascends left) (second.ascends right)
  inside := by
    rintro i j ⟨k, left, right⟩ low
    exact second.inside right (first.inside left low)
  mem_iff {places j} low := by
    rw [second.mem_iff (first.within low)]
    constructor
    · rintro ⟨k, member, right⟩
      obtain ⟨i, here, left⟩ := (first.mem_iff low).mp member
      exact ⟨i, here, k, left, right⟩
    · rintro ⟨i, here, k, left, right⟩
      exact ⟨k, (first.mem_iff low).mpr ⟨i, here, left⟩, right⟩

theorem either (first : Follows size f step) (second : Follows size g step') :
    Follows size (fun places => mergePlaces (f places) (g places))
      (fun i j => step i j ∨ step' i j) where
  ascends := Or.rec first.ascends second.ascends
  inside := Or.rec first.inside second.inside
  mem_iff {places j} low := by
    simp only [mem_mergePlaces, first.mem_iff low, second.mem_iff low, and_or_left, exists_or]

theorem times (h : Follows size f step) (n : Nat) : Follows size (times f n) (Walk step n) where
  ascends walk := walk.le fun _ _ => h.ascends
  inside walk := walk.keeps fun _ _ low first => h.inside first low
  mem_iff {places j} low := by
    induction n generalizing places with
    | zero =>
      constructor
      · exact fun here => ⟨j, here, .arrived⟩
      · rintro ⟨_, here, ⟨⟩⟩
        exact here
    | succ n ih =>
      rw [Pattern.times, ih (h.within low)]
      constructor
      · rintro ⟨k, member, rest⟩
        obtain ⟨i, here, first⟩ := (h.mem_iff low).mp member
        exact ⟨i, here, .next first rest⟩
      · rintro ⟨i, here, walk⟩
        cases walk with
        | next first rest => exact ⟨_, (h.mem_iff low).mpr ⟨i, here, first⟩, rest⟩

end Follows

def ahead (f : List Nat → List Nat) (seen fresh : List Nat) : List Nat :=
  (f fresh).filter fun i => !seen.contains i

/-- Between two rounds: from a place that was there before the last one nothing new is reached. -/
structure Explored (size : Nat) (step : Nat → Nat → Prop) (seen fresh : List Nat) : Prop where
  low : ∀ i ∈ seen, i ≤ size
  fresh_seen : ∀ i ∈ fresh, i ∈ seen
  closed : ∀ i ∈ seen, i ∉ fresh → ∀ j, step i j → j ∈ seen

namespace Explored
variable {size : Nat}

theorem mem_ahead (follows : Follows size f step) (h : Explored size step seen fresh) :
    j ∈ ahead f seen fresh ↔ (∃ i ∈ fresh, step i j) ∧ j ∉ seen := by
  rw [ahead, List.mem_filter, follows.mem_iff fun i member => h.low i (h.fresh_seen i member)]
  simp

theorem step_seen (follows : Follows size f step) (h : Explored size step seen fresh)
    (here : i ∈ seen) (first : step i j) : j ∈ mergePlaces seen (ahead f seen fresh) := by
  rw [mem_mergePlaces, h.mem_ahead follows]
  by_cases known : j ∈ seen
  · exact Or.inl known
  · refine Or.inr ⟨⟨i, ?_, first⟩, known⟩
    by_contra old
    exact known (h.closed i here old j first)

theorem round (follows : Follows size f step) (h : Explored size step seen fresh) :
    Explored size step (mergePlaces seen (ahead f seen fresh)) (ahead f seen fresh) where
  low i member := by
    rcases mem_mergePlaces.mp member with old | new
    · exact h.low i old
    · obtain ⟨⟨k, here, first⟩, -⟩ := (h.mem_ahead follows).mp new
      exact follows.inside first (h.low k (h.fresh_seen k here))
  fresh_seen i member := mem_mergePlaces.mpr (Or.inr member)
  closed i member old j first := by
    have here := (mem_mergePlaces.mp member).resolve_right old
    exact h.step_seen follows here first

theorem gather_sound (follows : Follows size f step) (h : Explored size step seen fresh)
    (member : j ∈ gather f n seen fresh) :
    j ∈ seen ∨ ∃ m ≤ n, ∃ i ∈ fresh, Walk step m i j := by
  induction n generalizing seen fresh with
  | zero => exact Or.inl member
  | succ n ih =>
    rw [gather, ← ahead] at member
    split at member
    · exact Or.inl member
    · rcases ih (h.round follows) member with here | ⟨m, few, k, new, walk⟩
      · rcases mem_mergePlaces.mp here with old | new
        · exact Or.inl old
        · obtain ⟨⟨i, here, first⟩, -⟩ := (h.mem_ahead follows).mp new
          exact Or.inr ⟨1, by omega, i, here, .next first .arrived⟩
      · obtain ⟨⟨i, here, first⟩, -⟩ := (h.mem_ahead follows).mp new
        exact Or.inr ⟨m + 1, by omega, i, here, .next first walk⟩

theorem gather_complete (follows : Follows size f step) (h : Explored size step seen fresh)
    {m : Nat} (few : m ≤ n) (here : i ∈ seen) (walk : Walk step m i j) :
    j ∈ gather f n seen fresh := by
  -- a round takes the walk one step on, also when the step leads to a place that is known already
  induction n generalizing seen fresh i m with
  | zero =>
    obtain rfl := Nat.le_zero.mp few
    cases walk
    exact here
  | succ n ih =>
    rw [gather, ← ahead]
    split
    · rename_i none
      refine walk.keeps (fun k l known first => ?_) here
      have onward := h.step_seen follows known first
      rw [mem_mergePlaces, List.isEmpty_iff.mp none] at onward
      simpa using onward
    · cases walk with
      | arrived => 
        exact ih (h.round follows) (Nat.zero_le n) (mem_mergePlaces.mpr (Or.inl here)) .arrived
      | next first rest =>
        exact ih (h.round follows) (Nat.le_of_succ_le_succ few) (h.step_seen follows here first) rest

end Explored

theorem Follows.gather {size : Nat} (h : Follows size f step) (n : Nat) :
    Follows size (fun places => gather f n places places)
      (fun i j => ∃ m ≤ n, Walk step m i j) where
  ascends := by
    rintro i j ⟨m, -, walk⟩
    exact (h.times m).ascends walk
  inside := by
    rintro i j ⟨m, -, walk⟩
    exact (h.times m).inside walk
  mem_iff {places j} low := by
    have start : Explored size step places places :=
      ⟨low, fun _ here => here, fun i here new => absurd here new⟩
    constructor
    · intro member
      rcases start.gather_sound h member with here | ⟨m, few, i, here, walk⟩
      · exact ⟨j, here, 0, Nat.zero_le n, .arrived⟩
      · exact ⟨i, here, m, few, walk⟩
    · rintro ⟨i, here, m, few, walk⟩
      exact start.gather_complete h few here walk

/-- As many rounds as there are characters are enough for a repetition. -/
theorem Follows.repeated_iff {size least rounds : Nat} {most : Option Nat}
    (h : Follows size f step) (low : i ≤ size)
    (enough : ∀ m, m ≤ rounds ↔ (∀ b, most = some b → m ≤ b - least) ∧ m ≤ size + 1) :
    (∃ k, Walk step least i k ∧ ∃ m ≤ rounds, Walk step m k j) ↔
      ∃ n, least ≤ n ∧ (∀ m, most = some m → n ≤ max least m) ∧ Walk step n i j := by
  constructor
  · rintro ⟨k, first, m, few, rest⟩
    refine ⟨m + least, Nat.le_add_left least m, fun b bounded => ?_, first.append rest⟩
    have := ((enough m).mp few).1 b bounded
    omega
  · rintro ⟨n, atLeast, atMost, walk⟩
    obtain ⟨m, rfl⟩ := Nat.exists_eq_add_of_le' atLeast
    obtain ⟨k, first, rest⟩ := walk.split
    obtain ⟨m', fewer, short, walk'⟩ := rest.shorten fun _ _ => h.ascends
    have last : j ≤ size := (h.times (m + least)).inside walk low
    refine ⟨k, first, m', (enough m').mpr ⟨fun b bounded => ?_, by omega⟩, walk'⟩
    have := atMost b bounded
    omega

theorem after_follows (text : Array Char) (p : Tree) :
    Follows text.size (p.after text) (Spans text p) := by
  induction p with
  | empty => exact .stays
  | one set =>
    constructor
    case ascends =>
      rintro i j ⟨rfl, -⟩
      exact Nat.le_succ i
    case inside =>
      rintro i j ⟨rfl, c, there, -⟩ -
      exact (Array.getElem?_eq_some_iff.mp there).1
    case mem_iff =>
      intro places j _
      rw [Tree.after, List.mem_filterMap]
      refine exists_congr fun i => and_congr_right fun _ => ?_
      rw [Option.ite_none_right_eq_some, Option.any_eq_true, Option.some.injEq]
      exact and_comm.trans (and_congr_left' eq_comm)
  | look condition =>
    constructor
    case ascends =>
      rintro i j ⟨rfl, -⟩
      exact Nat.le_refl j
    case inside =>
      rintro i j ⟨rfl, -⟩ low
      exact low
    case mem_iff =>
      intro places j _
      rw [Tree.after, List.mem_filter]
      constructor
      · rintro ⟨here, holds⟩
        exact ⟨j, here, rfl, holds⟩
      · rintro ⟨i, here, rfl, holds⟩
        exact ⟨here, holds⟩
  | both a b first second => exact first.both second
  | either a b first second => exact first.either second
  | repeated inner least most ih =>
    constructor
    case ascends =>
      rintro i j ⟨n, -, -, walk⟩
      exact (ih.times n).ascends walk
    case inside =>
      rintro i j ⟨n, -, -, walk⟩
      exact (ih.times n).inside walk
    case mem_iff =>
      intro places j low
      refine (((ih.times least).both (ih.gather _)).mem_iff low).trans
        (exists_congr fun i => and_congr_right fun here => ih.repeated_iff (low i here) ?_)
      intro m
      cases most with
      | none => simp
      | some b => exact Nat.le_min.trans (and_congr_left' (by simp))

theorem found_iff (p : Tree) (text : String) : p.found text = true ↔ p.OccursIn text := by
  have low : ∀ i ∈ List.range (text.toList.toArray.size + 1), i ≤ text.toList.toArray.size :=
    fun i member => Nat.le_of_lt_succ (List.mem_range.mp member)
  rw [Tree.found, Bool.not_eq_true', List.isEmpty_eq_false_iff_exists_mem]
  constructor
  · rintro ⟨j, member⟩
    obtain ⟨i, here, spans⟩ := ((after_follows _ p).mem_iff low).mp member
    exact ⟨i, j, low i here, spans⟩
  · rintro ⟨i, j, inside, spans⟩
    have here := List.mem_range.mpr (Nat.lt_succ_of_le inside)
    exact ⟨j, ((after_follows _ p).mem_iff low).mpr ⟨i, here, spans⟩⟩

end ClassForge.Pattern
