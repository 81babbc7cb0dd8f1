/-!
Cutting texts: at the first or the last occurrence of a character, into pieces, into lines, and
around a given piece of text. Everything is on lists, so that each cut is an equation about `++`.
-/
namespace ClassForge.Text

variable {α : Type} [BEq α]

def cutFirst (sep : α) : List α → Option (List α × List α)
  | [] => none
  | c :: cs =>
    if c == sep then some ([], cs)
    else (cutFirst sep cs).map fun (before, after) => (c :: before, after)

def cutLast (sep : α) (cs : List α) : Option (List α × List α) :=
  (cutFirst sep cs.reverse).map fun (after, before) => (before.reverse, after.reverse)

/-- The pieces between the occurrences of `sep`; one more than there are occurrences. -/
def pieces (sep : α) : List α → List (List α)
  | [] => [[]]
  | c :: cs =>
    if c == sep then [] :: pieces sep cs
    else match pieces sep cs with
      | [] => [[c]]
      | p :: ps => (c :: p) :: ps

def joined (sep : List α) : List (List α) → List α
  | [] => []
  | [p] => p
  | p :: q :: ps => p ++ sep ++ joined sep (q :: ps)

section
variable [LawfulBEq α] {sep : α}

theorem cutFirst_eq_none_iff {cs : List α} : cutFirst sep cs = none ↔ sep ∉ cs := by
  induction cs with
  | nil => simp [cutFirst]
  | cons c cs ih =>
    by_cases same : c = sep
    · simp [cutFirst, same]
    · simp [cutFirst, same, ih, Ne.symm same]

theorem cutFirst_eq_some_iff {cs before after : List α} :
    cutFirst sep cs = some (before, after) ↔ cs = before ++ sep :: after ∧ sep ∉ before := by
  induction cs generalizing before with
  | nil => simp [cutFirst]
  | cons c cs ih =>
    by_cases same : c = sep
    · subst same
      cases before with
      | nil => simp [cutFirst]
      | cons d before => simp +contextual [cutFirst]
    · have unfolded : cutFirst sep (c :: cs) =
          (cutFirst sep cs).map fun (before, after) => (c :: before, after) := by
        simp [cutFirst, same]
      rw [unfolded, Option.map_eq_some_iff]
      constructor
      · rintro ⟨⟨before', after'⟩, later, cut⟩
        obtain ⟨rfl, rfl⟩ := Prod.mk.inj cut
        obtain ⟨rfl, absent⟩ := ih.mp later
        exact ⟨rfl, by simpa [Ne.symm same] using absent⟩
      · rintro ⟨whole, absent⟩
        cases before with
        | nil => exact absurd (List.cons.inj whole).1 same
        | cons d before =>
          obtain ⟨rfl, rfl⟩ := List.cons.inj whole
          exact ⟨(before, after), ih.mpr ⟨rfl, fun member => absent (.tail c member)⟩, rfl⟩

theorem cutLast_eq_none_iff {cs : List α} : cutLast sep cs = none ↔ sep ∉ cs := by
  rw [cutLast, Option.map_eq_none_iff, cutFirst_eq_none_iff, List.mem_reverse]

theorem cutLast_eq_some_iff {cs before after : List α} :
    cutLast sep cs = some (before, after) ↔ cs = before ++ sep :: after ∧ sep ∉ after := by
  have reversed : cutLast sep cs = some (before, after) ↔
      cutFirst sep cs.reverse = some (after.reverse, before.reverse) := by
    rw [cutLast, Option.map_eq_some_iff]
    constructor
    · rintro ⟨⟨x, y⟩, cut, same⟩
      obtain ⟨rfl, rfl⟩ := Prod.mk.inj same
      simpa using cut
    · exact fun cut => ⟨_, cut, by simp⟩
  rw [reversed, cutFirst_eq_some_iff, List.reverse_eq_iff]
  simp

end

theorem pieces_ne_nil (sep : α) (cs : List α) : pieces sep cs ≠ [] := by
  cases cs with
  | nil => simp [pieces]
  | cons c cs =>
    rw [pieces]
    split
    · simp
    · split <;> simp

theorem prefix_of_pieces {sep : α} {cs p : List α} {ps : List (List α)} (cut : pieces sep cs = p :: ps) :
    p <+: cs := by
  induction cs generalizing p ps with
  | nil => simp_all [pieces]
  | cons c cs ih =>
    rw [pieces] at cut
    split at cut
    · exact (List.cons.inj cut).1 ▸ List.nil_prefix
    · split at cut
      · exact absurd ‹_› (pieces_ne_nil sep cs)
      · exact (List.cons.inj cut).1 ▸ List.cons_prefix_cons.mpr ⟨rfl, ih ‹_›⟩

section
variable [LawfulBEq α] (sep : α)

theorem pieces_append (cs ds : List α) :
    pieces sep (cs ++ sep :: ds) = pieces sep cs ++ pieces sep ds := by
  induction cs with
  | nil => simp [pieces]
  | cons c cs ih =>
    rw [List.cons_append, pieces, pieces, ih]
    split
    · rfl
    · cases earlier : pieces sep cs with
      | nil => exact absurd earlier (pieces_ne_nil sep cs)
      | cons p ps => rfl

theorem pieces_of_absent {cs : List α} (absent : sep ∉ cs) : pieces sep cs = [cs] := by
  induction cs with
  | nil => rfl
  | cons c cs ih =>
    have other : (c == sep) = false := beq_false_of_ne fun same => absent (by simp [same])
    have later : sep ∉ cs := fun member => absent (List.mem_cons_of_mem c member)
    simp [pieces, other, ih later]

theorem pieces_meet (cs ds : List α) : ∃ before last first after, pieces sep cs = before ++ [last] ∧
    pieces sep ds = first :: after ∧
      pieces sep (cs ++ ds) = before ++ (last ++ first) :: after := by
  obtain ⟨first, after, here⟩ := List.exists_cons_of_ne_nil (pieces_ne_nil sep ds)
  induction cs with
  | nil => exact ⟨[], [], first, after, rfl, here, here⟩
  | cons c cs ih =>
    obtain ⟨before, last, first', after', left, right, whole⟩ := ih
    by_cases same : c = sep
    · exact ⟨[] :: before, last, first', after', by simp [pieces, same, left], right,
        by simp [pieces, same, whole]⟩
    · cases before with
      | nil => exact ⟨[], c :: last, first', after', by simp [pieces, same, left], right,
          by simp [pieces, same, whole]⟩
      | cons p before => exact ⟨(c :: p) :: before, last, first', after',
          by simp [pieces, same, left], right, by simp [pieces, same, whole]⟩

theorem mem_of_mem_pieces {cs p : List α} (piece : p ∈ pieces sep cs) {x : α} (member : x ∈ p) :
    x ∈ cs ∧ x ≠ sep := by
  induction cs generalizing p with
  | nil => simp_all [pieces]
  | cons c cs ih =>
    have later : ∀ q ∈ pieces sep cs, x ∈ q → x ∈ c :: cs ∧ x ≠ sep := fun q piece member =>
      ⟨List.mem_cons_of_mem c (ih piece member).1, (ih piece member).2⟩
    obtain ⟨q, qs, here⟩ := List.exists_cons_of_ne_nil (pieces_ne_nil sep cs)
    rw [here] at later
    by_cases same : c = sep
    · simp only [pieces, same, BEq.rfl, ↓reduceIte, here] at piece
      rcases List.mem_cons.mp piece with rfl | piece
      · cases member
      · exact later p piece member
    · simp only [pieces, beq_false_of_ne same, here, Bool.false_eq_true, ↓reduceIte] at piece
      rcases List.mem_cons.mp piece with rfl | piece
      · rcases List.mem_cons.mp member with rfl | member
        · exact ⟨List.mem_cons_self, same⟩
        · exact later q List.mem_cons_self member
      · exact later p (List.mem_cons_of_mem q piece) member

theorem exists_mem_pieces {cs : List α} {x : α} (member : x ∈ cs) (other : x ≠ sep) :
    ∃ p ∈ pieces sep cs, x ∈ p := by
  induction cs with
  | nil => cases member
  | cons c cs ih =>
    obtain ⟨q, qs, here⟩ := List.exists_cons_of_ne_nil (pieces_ne_nil sep cs)
    by_cases same : c = sep
    · obtain ⟨p, piece, inside⟩ := ih ((List.mem_cons.mp member).resolve_left (same ▸ other))
      exact ⟨p, by simp [pieces, same, piece], inside⟩
    · simp only [pieces, beq_false_of_ne same, here, Bool.false_eq_true, ↓reduceIte]
      rcases List.mem_cons.mp member with rfl | later
      · exact ⟨x :: q, List.mem_cons_self, List.mem_cons_self⟩
      · obtain ⟨p, piece, inside⟩ := ih later
        rw [here] at piece
        rcases List.mem_cons.mp piece with rfl | piece
        · exact ⟨c :: p, List.mem_cons_self, List.mem_cons_of_mem c inside⟩
        · exact ⟨p, List.mem_cons_of_mem _ piece, inside⟩

theorem joined_pieces (cs : List α) : joined [sep] (pieces sep cs) = cs := by
  induction cs with
  | nil => rfl
  | cons c cs ih =>
    rw [pieces]
    rcases later : pieces sep cs with _ | ⟨p, ps⟩
    · exact absurd later (pieces_ne_nil sep cs)
    · rw [later] at ih
      by_cases same : c = sep
      · simp [joined, same, ih]
      · cases ps <;> simp_all [joined]

theorem pieces_joined {ps : List (List α)} (some : ps ≠ []) (absent : ∀ p ∈ ps, sep ∉ p) :
    pieces sep (joined [sep] ps) = ps := by
  induction ps with
  | nil => exact absurd rfl some
  | cons p ps ih =>
    obtain ⟨first, rest⟩ := List.forall_mem_cons.mp absent
    cases ps with
    | nil => exact pieces_of_absent sep first
    | cons q ps =>
      rw [joined, List.append_assoc, List.singleton_append, pieces_append,
        pieces_of_absent sep first, ih (by simp) rest, List.singleton_append]

end

def occurs (part : List α) : List α → Bool
  | [] => part.isEmpty
  | c :: cs => part.isPrefixOf (c :: cs) || occurs part cs

def around (part : List α) : List α → Option (List α × List α)
  | [] => if part.isEmpty then some ([], []) else none
  | c :: cs =>
    match part.isPrefixOf? (c :: cs) with
    | some rest => some ([], rest)
    | none => (around part cs).map fun (before, after) => (c :: before, after)

/-- The first occurrence of `part`, if there is one, becomes `new`. -/
def substituteFirst (part new cs : List α) : List α :=
  match around part cs with
  | some (before, after) => before ++ new ++ after
  | none => cs

theorem prefix_of_absent {α : Type} {word before after : List α} {c : α} (absent : c ∉ word)
    (starts : word <+: before ++ c :: after) : word <+: before := by
  rcases List.prefix_or_prefix_of_prefix starts (List.prefix_append before (c :: after)) with
    short | ⟨rest, rfl⟩
  · exact short
  · cases rest with
    | nil => simp
    | cons d rest =>
      obtain ⟨rfl, -⟩ := List.cons_prefix_cons.mp ((List.prefix_append_right_inj before).mp starts)
      exact absurd (by simp) absent

section
variable [LawfulBEq α]

private theorem eq_of_isPrefixOf {part cs rest : List α}
    (starts : part.isPrefixOf? cs = some rest) : cs = part ++ rest := by
  induction part generalizing cs with
  | nil => exact Option.some.inj starts
  | cons c part ih =>
    cases cs with
    | nil => cases starts
    | cons d cs =>
      have unfolded : (if c == d then part.isPrefixOf? cs else none) = some rest := starts
      split at unfolded
      · rename_i same
        rw [ih unfolded, eq_of_beq same, List.cons_append]
      · cases unfolded

theorem occurs_iff {part cs : List α} : occurs part cs = true ↔ part <:+: cs := by
  induction cs with
  | nil => rw [occurs, List.isEmpty_iff, List.infix_nil]
  | cons c cs ih =>
    rw [occurs, Bool.or_eq_true, List.isPrefixOf_iff_prefix, ih, List.infix_cons_iff]

theorem around_eq_some {part cs before after : List α} (found : around part cs = some (before, after)) :
    cs = before ++ part ++ after := by
  induction cs generalizing before with
  | nil =>
    unfold around at found
    split at found
    · obtain ⟨rfl, rfl⟩ := Prod.mk.inj (Option.some.inj found)
      simpa using ‹part.isEmpty = true›.symm
    · cases found
  | cons c cs ih =>
    unfold around at found
    split at found
    · rename_i rest starts
      obtain ⟨rfl, rfl⟩ := Prod.mk.inj (Option.some.inj found)
      exact eq_of_isPrefixOf starts
    · obtain ⟨⟨before', after'⟩, later, same⟩ := Option.map_eq_some_iff.mp found
      obtain ⟨rfl, rfl⟩ := Prod.mk.inj same
      rw [ih later, List.cons_append, List.cons_append]

/-- A word at the start of a text was there before a character that it lacks was written. -/
theorem prefix_of_substituteFirst {word part cs : List α} {old new : α} (absent : new ∉ word)
    (starts : word <+: substituteFirst (part ++ [old]) (part ++ [new]) cs) : word <+: cs := by
  unfold substituteFirst at starts
  split at starts
  · rename_i before after found
    rw [around_eq_some found]
    have early : word <+: before ++ part := prefix_of_absent absent (by simpa using starts)
    simpa using early.trans (List.prefix_append _ (old :: after))
  · exact starts

end

/-- Every line with the line break that ends it; only the last may lack one. -/
def brokenLines : List Char → List (List Char)
  | [] => []
  | c :: cs =>
    if c = '\n' then ['\n'] :: brokenLines cs
    else match brokenLines cs with
      | [] => [[c]]
      | l :: ls => (c :: l) :: ls

/-- A line without its line break, which is a line feed or a carriage return and a line feed. -/
def lineText (line : List Char) : List Char :=
  match line.reverse with
  | '\n' :: '\r' :: r => r.reverse
  | '\n' :: r => r.reverse
  | _ => line

def lines (cs : List Char) : List (List Char) := (brokenLines cs).map lineText

end ClassForge.Text
