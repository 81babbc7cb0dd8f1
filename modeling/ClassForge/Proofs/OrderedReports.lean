import Mathlib.Data.List.Forall2
import Mathlib.Data.List.Induction

/-!
Reports put together from reports on parts. What there is to tell is a relation between places and
items. A list recounts it when its items belong, one after the other, to ascending places, and no
place is left out of which there is something to tell.
-/
namespace ClassForge
open List (Forall₂)
variable {ι κ α β : Type} {before : ι → ι → Prop} {tells tells' : ι → α → Prop}
  {report report' : List α}

structure Recounts (before : ι → ι → Prop) (tells : ι → α → Prop) (report : List α) : Prop where
  single : ∀ {i a b}, tells i a → tells i b → a = b
  listed : ∃ places : List ι, places.Pairwise before ∧ (∀ i, i ∈ places ↔ ∃ a, tells i a) ∧
    Forall₂ tells places report

namespace Recounts

theorem congr (h : Recounts before tells report) (same : ∀ i a, tells' i a ↔ tells i a) :
    Recounts before tells' report := by
  obtain rfl : tells' = tells := funext₂ fun i a => propext (same i a)
  exact h

theorem nothing (quiet : ∀ i a, ¬tells i a) : Recounts before tells [] where
  single h := absurd h (quiet _ _)
  listed := ⟨[], .nil, fun i => by simp [quiet], .nil⟩

/-- There is one place only of which there may be something to tell. -/
theorem atMostOne (place : ι) (told : ∀ i a, tells i a ↔ i = place ∧ a ∈ report)
    (short : report.length ≤ 1) : Recounts before tells report := by
  match report with
  | [] => exact nothing (by simp [told])
  | [a] =>
    constructor
    · intro i b c first second
      have first := ((told i b).mp first).2
      have second := ((told i c).mp second).2
      exact (List.mem_singleton.mp first).trans (List.mem_singleton.mp second).symm
    · refine ⟨[place], List.pairwise_singleton _ _, fun i => by simp [told], .cons ?_ .nil⟩
      exact (told place a).mpr ⟨rfl, List.mem_singleton_self a⟩

theorem append (irrefl : ∀ i, ¬before i i) (first : Recounts before tells report)
    (second : Recounts before tells' report')
    (apart : ∀ i a j b, tells i a → tells' j b → before i j) :
    Recounts before (fun i a => tells i a ∨ tells' i a) (report ++ report') where
  single := by
    rintro i a b (here | later) (here' | later')
    · exact first.single here here'
    · exact absurd (apart _ _ _ _ here later') (irrefl i)
    · exact absurd (apart _ _ _ _ here' later) (irrefl i)
    · exact second.single later later'
  listed := by
    obtain ⟨places, ascending, named, told⟩ := first.listed
    obtain ⟨places', ascending', named', told'⟩ := second.listed
    refine ⟨places ++ places', List.pairwise_append.mpr ⟨ascending, ascending', ?_⟩, ?_, ?_⟩
    · intro i here j later
      obtain ⟨a, stated⟩ := (named i).mp here
      obtain ⟨b, stated'⟩ := (named' j).mp later
      exact apart i a j b stated stated'
    · intro i
      rw [List.mem_append, named, named', exists_or]
    · exact List.rel_append (told.imp fun _ _ => Or.inl) (told'.imp fun _ _ => Or.inr)

/-- The places are called otherwise, in the same order, and so are the items. -/
theorem relabelled {after : κ → κ → Prop} (h : Recounts before tells report) {f : ι → κ}
    (injective : Function.Injective f) (monotone : ∀ i j, before i j → after (f i) (f j))
    (g : α → β) :
    Recounts after (fun k b => ∃ i a, tells i a ∧ f i = k ∧ g a = b) (report.map g) where
  single := by
    rintro _ _ _ ⟨i, a, stated, rfl, rfl⟩ ⟨j, b, stated', same, rfl⟩
    obtain rfl := injective same
    rw [h.single stated stated']
  listed := by
    obtain ⟨places, ascending, named, told⟩ := h.listed
    refine ⟨places.map f, List.pairwise_map.mpr (ascending.imp (monotone _ _)), ?_, ?_⟩
    · intro k
      rw [List.mem_map]
      constructor
      · rintro ⟨i, here, rfl⟩
        obtain ⟨a, stated⟩ := (named i).mp here
        exact ⟨g a, i, a, stated, rfl, rfl⟩
      · rintro ⟨_, i, a, stated, rfl, rfl⟩
        exact ⟨i, (named i).mpr ⟨a, stated⟩, rfl⟩
    · rw [List.forall₂_map_left_iff, List.forall₂_map_right_iff]
      exact told.imp fun i a stated => ⟨i, a, stated, rfl, rfl⟩

/-- The report on a list goes through its elements, and all that is told of an element comes before
what is told of later ones. -/
theorem along (irrefl : ∀ i, ¬before i i) (xs : List β) (part : Nat → β → ι → α → Prop)
    (reports : Nat → β → List α)
    (each : ∀ n x, xs[n]? = some x → Recounts before (part n x) (reports n x))
    (apart : ∀ n m x y i a j b, n < m → part n x i a → part m y j b → before i j) :
    Recounts before (fun i a => ∃ n x, xs[n]? = some x ∧ part n x i a)
      (xs.zipIdx.flatMap fun (x, n) => reports n x) := by
  induction xs using List.reverseRecOn with
  | nil => exact nothing (by simp)
  | append_singleton xs x ih =>
    have inside {n : Nat} {y : β} (there : xs[n]? = some y) : n < xs.length :=
      (List.getElem?_eq_some_iff.mp there).1
    have earlier := ih fun n y there =>
      each n y ((List.getElem?_append_left (inside there)).trans there)
    have last := each xs.length x List.getElem?_concat_length
    rw [List.zipIdx_append, List.flatMap_append, Nat.zero_add]
    simp only [List.zipIdx_cons, List.zipIdx_nil, List.flatMap_cons, List.flatMap_nil,
      List.append_nil]
    refine (earlier.append irrefl last ?_).congr ?_
    · rintro i a j b ⟨n, y, there, here⟩ later
      exact apart n xs.length y x i a j b (inside there) here later
    · intro i a
      constructor
      · rintro ⟨n, y, there, here⟩
        rcases Nat.lt_trichotomy n xs.length with inner | rfl | outer
        · rw [List.getElem?_append_left inner] at there
          exact Or.inl ⟨n, y, there, here⟩
        · rw [List.getElem?_concat_length] at there
          obtain rfl := Option.some.inj there
          exact Or.inr here
        · rw [List.getElem?_eq_none (by simp; omega)] at there
          cases there
      · rintro (⟨n, y, there, here⟩ | here)
        · exact ⟨n, y, (List.getElem?_append_left (inside there)).trans there, here⟩
        · exact ⟨xs.length, x, List.getElem?_concat_length, here⟩

theorem mem_iff (h : Recounts before tells report) {a : α} : a ∈ report ↔ ∃ i, tells i a := by
  obtain ⟨single, places, -, named, told⟩ := h
  have listed : a ∈ report ↔ ∃ i ∈ places, tells i a := by
    clear named
    induction told with
    | nil => simp
    | @cons i b places report here told ih =>
      rw [List.mem_cons, List.exists_mem_cons_iff, ih]
      exact or_congr_left ⟨fun same => same ▸ here, fun here' => single here' here⟩
  rw [listed]
  exact ⟨fun ⟨i, _, here⟩ => ⟨i, here⟩, fun ⟨i, here⟩ => ⟨i, (named i).mpr ⟨a, here⟩, here⟩⟩

theorem eq_nil_iff (h : Recounts before tells report) : report = [] ↔ ∀ i a, ¬tells i a := by
  simp only [List.eq_nil_iff_forall_not_mem, h.mem_iff, not_exists]
  exact forall_comm

theorem pairwise (h : Recounts before tells report) :
    report.Pairwise fun a b => ∃ i j, before i j ∧ tells i a ∧ tells j b := by
  obtain ⟨places, ascending, -, told⟩ := h.listed
  clear h
  induction told with
  | nil => exact .nil
  | @cons i a places report here told ih =>
    obtain ⟨lowest, ascending⟩ := List.pairwise_cons.mp ascending
    refine .cons (fun b member => ?_) (ih ascending)
    obtain ⟨n, inside, rfl⟩ := List.getElem_of_mem member
    have within : n < places.length := told.length_eq ▸ inside
    exact ⟨i, places[n], lowest _ (List.getElem_mem within), here, told.get within inside⟩

/-- The first item of some kind is the one of the first place that has such an item. -/
theorem findSome?_eq_some_iff (irrefl : ∀ i, ¬before i i)
    (transitive : ∀ i j k, before i j → before j k → before i k)
    (h : Recounts before tells report) {kind : α → Option β} {b : β} :
    report.findSome? kind = some b ↔ ∃ i a, tells i a ∧ kind a = some b ∧
      ∀ j c, tells j c → before j i → kind c = none := by
  obtain ⟨single, places, ascending, named, told⟩ := h
  -- only places that are listed need be compared
  have among : report.findSome? kind = some b ↔ ∃ i ∈ places, ∃ a, tells i a ∧
      kind a = some b ∧ ∀ j ∈ places, ∀ c, tells j c → before j i → kind c = none := by
    clear named
    induction told with
    | nil => simp
    | @cons i a places report here told ih =>
      obtain ⟨lowest, ascending⟩ := List.pairwise_cons.mp ascending
      rw [List.findSome?_cons]
      cases found : kind a with
      | some b' =>
        constructor
        · rintro ⟨⟩
          refine ⟨i, List.mem_cons_self, a, here, found, fun j member c _ earlier => ?_⟩
          rcases List.mem_cons.mp member with rfl | later
          · exact absurd earlier (irrefl _)
          · exact absurd (transitive _ _ _ earlier (lowest j later)) (irrefl _)
        · rintro ⟨j, member, a', here', found', least⟩
          rcases List.mem_cons.mp member with rfl | later
          · rw [single here here', found'] at found
            exact found.symm
          · have silent := least i List.mem_cons_self a here (lowest j later)
            rw [silent] at found
            cases found
      | none =>
        rw [ih ascending]
        constructor
        · rintro ⟨j, later, a', here', found', least⟩
          refine ⟨j, List.mem_cons_of_mem i later, a', here', found', fun k member c stated => ?_⟩
          rcases List.mem_cons.mp member with rfl | among
          · exact fun _ => single here stated ▸ found
          · exact least k among c stated
        · rintro ⟨j, member, a', here', found', least⟩
          rcases List.mem_cons.mp member with rfl | later
          · rw [single here here', found'] at found
            cases found
          · exact ⟨j, later, a', here', found',
              fun k among => least k (List.mem_cons_of_mem i among)⟩
  rw [among]
  constructor
  · rintro ⟨i, -, a, here, found, least⟩
    exact ⟨i, a, here, found, fun j c stated => least j ((named j).mpr ⟨c, stated⟩) c stated⟩
  · rintro ⟨i, a, here, found, least⟩
    exact ⟨i, (named i).mpr ⟨a, here⟩, a, here, found, fun j _ c stated => least j c stated⟩

end Recounts
end ClassForge
