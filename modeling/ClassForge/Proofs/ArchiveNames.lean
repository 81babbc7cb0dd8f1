import ClassForge.Proofs.HeaderNumbers

/-!
Names in headers. The parts of a name are put into the slot of a header one after the other. Parts
that fit are read back from the slot; a part that must not be put ends with a fault, and so does one
that there is no room for.
-/
namespace ClassForge.Tar

/-- A slot is filled with these bytes, and may hold others after them. -/
structure Slot.Holds (s : Slot) (done : Bytes) : Prop where
  length : s.bytes.length = nameLength
  filled : s.filled = done.length
  starts : s.bytes.take done.length = done

theorem fresh_holds {s : Slot} (length : s.bytes.length = nameLength) :
    Slot.Holds ⟨s.bytes, 0⟩ [] := ⟨length, rfl, rfl⟩

theorem Slot.Holds.push_fits {s : Slot} {done : Bytes} (holds : s.Holds done) (bs : Bytes)
    (room : done.length + bs.length ≤ nameLength) (clear : 0 ∉ bs) :
    ∃ s', s.push bs = .ok s' ∧ s'.Holds (done ++ bs) ∧
      (0 ∉ done → truncated s'.bytes = done ++ bs) := by
  obtain ⟨length, filled, starts⟩ := holds
  let zero : Bytes := if (done ++ bs).length < nameLength then [0] else []
  let rest := s.bytes.drop ((done ++ bs).length + zero.length)
  have fits : ¬ nameLength < s.filled + bs.length := by omega
  have zeroless : bs.contains 0 = false := by simpa using clear
  have pushed : s.push bs = .ok ⟨done ++ bs ++ (zero ++ rest), (done ++ bs).length⟩ := by
    rw [Slot.push, if_neg fits, zeroless, if_neg (by decide), filled, starts]
    simp only [zero, rest, List.append_assoc]
  have total : (done ++ bs).length + (zero ++ rest).length = nameLength := by
    simp only [zero, rest, List.length_append, List.length_drop, length]
    split <;> simp only [List.length_cons, List.length_nil] <;> omega
  refine ⟨_, pushed, ⟨?_, rfl, ?_⟩, ?_⟩
  · rw [List.length_append, total]
  · exact List.take_left' rfl
  · intro before
    refine truncated_append (by simp [before, clear]) fun b first => ?_
    by_cases more : (done ++ bs).length < nameLength
    · simp only [zero, if_pos more] at first
      exact (Option.some.inj first).symm
    · have none : (zero ++ rest).length = 0 := by omega
      rw [List.length_eq_zero_iff.mp none] at first
      cases first

theorem Slot.Holds.push_long {s : Slot} {done : Bytes} (holds : s.Holds done) (bs : Bytes)
    (long : nameLength < done.length + bs.length) : s.push bs = .error (.nameTooLong, s) := by
  rw [Slot.push, if_pos (holds.filled ▸ long)]

theorem Slot.Holds.push_outcome {s : Slot} {done : Bytes} (holds : s.Holds done) (bs : Bytes) :
    (∃ s', s.push bs = .ok s' ∧ s'.Holds (done ++ bs) ∧ 0 ∉ bs) ∨
      ∃ fault, s.push bs = .error (fault, s) := by
  by_cases room : done.length + bs.length ≤ nameLength
  · by_cases clear : 0 ∈ bs
    · refine .inr ⟨.nulInName, ?_⟩
      have fits : ¬ nameLength < s.filled + bs.length := by rw [holds.filled]; omega
      rw [Slot.push, if_neg fits, if_pos (by simpa using clear)]
    · obtain ⟨s', put, holds', -⟩ := holds.push_fits bs room clear
      exact .inl ⟨s', put, holds', clear⟩
  · exact .inr ⟨_, holds.push_long bs (by omega)⟩

/-- Parts that may all be put into a slot: names, and after a cut perhaps a parent at the end. -/
def Pushable (cut : Bool) : List Part → Prop
  | [] => True
  | .name bs :: ps => 0 ∉ bs ∧ Pushable cut ps
  | .parent :: ps => cut = true ∧ ps = []
  | .root :: _ | .current :: _ => False

def slashBytes (slash : Bool) : Bytes := if slash then [47] else []

def pushed (slash : Bool) : List Part → Bytes
  | [] => []
  | p :: ps => slashBytes slash ++ (p.bytes ++ pushed true ps)

theorem slashBytes_clear (slash : Bool) : 0 ∉ slashBytes slash := by
  cases slash <;> decide

theorem Slot.Holds.slash_fits {s : Slot} {done : Bytes} (holds : s.Holds done) (slash : Bool)
    (room : done.length + (slashBytes slash).length ≤ nameLength) :
    ∃ s', (if slash then s.push [47] else .ok s) = .ok s' ∧
      s'.Holds (done ++ slashBytes slash) := by
  cases slash with
  | false => exact ⟨s, rfl, by simpa [slashBytes] using holds⟩
  | true =>
    obtain ⟨s', put, holds', -⟩ := holds.push_fits [47] room (by decide)
    exact ⟨s', put, holds'⟩

theorem Slot.Holds.slash_outcome {s : Slot} {done : Bytes} (holds : s.Holds done) (slash : Bool) :
    (∃ s' done', (if slash then s.push [47] else .ok s) = .ok s' ∧ s'.Holds done') ∨
      ∃ fault, (if slash then s.push [47] else .ok s) = .error (fault, s) := by
  cases slash with
  | false => exact .inl ⟨s, done, rfl, holds⟩
  | true =>
    rcases holds.push_outcome [47] with ⟨s', put, holds', -⟩ | fault
    · exact .inl ⟨s', _, put, holds'⟩
    · exact .inr fault

section
variable {cut : Bool} {p : Part} {ps : List Part} (pushable : Pushable cut (p :: ps))
include pushable

theorem pushable_tail : Pushable cut ps := by
  cases p with
  | name bs => exact pushable.2
  | parent => exact pushable.2 ▸ trivial
  | root => cases pushable
  | current => cases pushable

theorem pushable_clear : 0 ∉ p.bytes := by
  cases p with
  | name bs => exact pushable.1
  | parent => decide
  | root => cases pushable
  | current => cases pushable

theorem pushParts_cons (alone slash : Bool) (s : Slot) :
    pushParts cut alone (p :: ps) slash s =
      (if slash then s.push [47] else .ok s) >>= fun s =>
        s.push p.bytes >>= pushParts cut alone ps true := by
  cases p with
  | name bs => cases slash <;> simp [pushParts]
  | parent => cases slash <;> simp [pushParts, pushable.1, pushable.2]
  | root => cases pushable
  | current => cases pushable

end

theorem pushed_clear {cut : Bool} {ps : List Part} (pushable : Pushable cut ps) (slash : Bool) :
    0 ∉ pushed slash ps := by
  induction ps generalizing slash with
  | nil => simp [pushed]
  | cons p ps ih =>
    have later := ih (pushable_tail pushable) true
    simp [pushed, slashBytes_clear, pushable_clear pushable, later]

/-- Parts that fit are put one after the other, and what they amount to is read back. -/
theorem pushParts_fits {cut : Bool} {ps : List Part} (pushable : Pushable cut ps)
    (alone slash : Bool) {s : Slot} {done : Bytes} (holds : s.Holds done)
    (room : (done ++ pushed slash ps).length ≤ nameLength) :
    ∃ s', pushParts cut alone ps slash s = .ok s' ∧ s'.Holds (done ++ pushed slash ps) ∧
      (0 ∉ done → ps ≠ [] ∨ truncated s.bytes = done →
        truncated s'.bytes = done ++ pushed slash ps) := by
  induction ps generalizing slash s done with
  | nil => exact ⟨s, by simp [pushParts], by simpa [pushed] using holds, by simp [pushed]⟩
  | cons p ps ih =>
    have rest := pushable_tail pushable
    have clear := pushable_clear pushable
    rw [pushParts_cons pushable]
    rw [pushed, ← List.append_assoc, ← List.append_assoc] at room ⊢
    simp only [List.length_append] at room
    obtain ⟨s₁, slashed, holds₁⟩ := holds.slash_fits slash (by omega)
    obtain ⟨s₂, put, holds₂, read⟩ :=
      holds₁.push_fits p.bytes (by simp only [List.length_append]; omega) clear
    obtain ⟨s', later, holds', readLater⟩ :=
      ih rest true holds₂ (by simp only [List.length_append]; omega)
    -- Each part ends what is read of the slot, so after the last one only the parts are read.
    refine ⟨s', ?_, holds', fun before _ => readLater ?_ (.inr (read ?_))⟩
    · rw [slashed]
      simp only [bind, Except.bind, put, later]
    · simp [before, clear, slashBytes_clear]
    · simp [before, slashBytes_clear]

theorem pushParts_long {cut : Bool} {ps : List Part} (pushable : Pushable cut ps)
    (alone slash : Bool) {s : Slot} {done : Bytes} (holds : s.Holds done)
    (short : done.length ≤ nameLength)
    (long : nameLength < (done ++ pushed slash ps).length) :
    ∃ s', pushParts cut alone ps slash s = .error (.nameTooLong, s') ∧
      s'.bytes.length = nameLength := by
  induction ps generalizing slash s done with
  | nil =>
    simp only [pushed, List.append_nil] at long
    omega
  | cons p ps ih =>
    have rest := pushable_tail pushable
    have clear := pushable_clear pushable
    rw [pushParts_cons pushable]
    rw [pushed, ← List.append_assoc, ← List.append_assoc] at long
    by_cases slashFits : done.length + (slashBytes slash).length ≤ nameLength
    · obtain ⟨s₁, slashed, holds₁⟩ := holds.slash_fits slash slashFits
      rw [slashed]
      by_cases fits : (done ++ slashBytes slash).length + p.bytes.length ≤ nameLength
      · obtain ⟨s₂, put, holds₂, -⟩ := holds₁.push_fits _ fits clear
        obtain ⟨s', later, length⟩ := ih rest true holds₂ (List.length_append ▸ fits) long
        exact ⟨s', by simp only [bind, Except.bind, put, later], length⟩
      · have put := holds₁.push_long p.bytes (by omega)
        exact ⟨s₁, by simp only [bind, Except.bind, put], holds₁.length⟩
    · cases slash with
      | false => simp [slashBytes, short] at slashFits
      | true =>
        have put := holds.push_long [47] (by simpa [slashBytes] using slashFits)
        exact ⟨s, by simp only [put, ↓reduceIte, bind, Except.bind], holds.length⟩

theorem pushed_eq_joined (ps : List Part) :
    pushed false ps = Text.joined [47] (ps.map Part.bytes) ∧
      (ps ≠ [] → pushed true ps = 47 :: Text.joined [47] (ps.map Part.bytes)) := by
  induction ps with
  | nil => simp [pushed, Text.joined]
  | cons p ps ih =>
    obtain ⟨-, later⟩ := ih
    have tail : p.bytes ++ pushed true ps = Text.joined [47] ((p :: ps).map Part.bytes) := by
      cases ps with
      | nil => simp [pushed, Text.joined]
      | cons q ps =>
        rw [later (by simp)]
        simp [Text.joined]
    exact ⟨tail, fun _ => congrArg ((47 : UInt8) :: ·) tail⟩

def partOf (p : Bytes) : Part := if p == [46, 46] then .parent else .name p

theorem partOf_bytes (p : Bytes) : (partOf p).bytes = p := by
  rw [partOf]
  split
  · rename_i same
    exact (eq_of_beq same).symm
  · rfl

theorem pushable_partOf {cut : Bool} {ps : List Bytes} : Pushable cut (ps.map partOf) ↔
    (∀ p ∈ ps, 0 ∉ p) ∧ [46, 46] ∉ if cut then ps.dropLast else ps := by
  induction ps with
  | nil => cases cut <;> simp [Pushable]
  | cons p ps ih =>
    by_cases parent : p = [46, 46]
    · cases cut <;> cases ps <;> simp [partOf, parent, Pushable]
    · have other : (p == [46, 46]) = false := beq_false_of_ne parent
      have apart : [46, 46] ≠ p := Ne.symm parent
      rw [List.map_cons, partOf, other]
      change (0 ∉ p ∧ Pushable cut (ps.map partOf)) ↔ _
      rw [ih, List.forall_mem_cons]
      cases cut <;> cases ps <;> simp [apart, and_assoc]

theorem pushParts_refused {cut : Bool} {ps : List Bytes} (refused : ¬ Pushable cut (ps.map partOf))
    (alone slash : Bool) {s : Slot} {done : Bytes} (holds : s.Holds done) :
    ∃ fault s', pushParts cut alone (ps.map partOf) slash s = .error (fault, s') ∧
      s'.bytes.length = nameLength := by
  induction ps generalizing slash s done with
  | nil => exact absurd trivial refused
  | cons p ps ih =>
    by_cases parent : p = [46, 46]
    · -- A parent is fine at the end of a path that was cut off only.
      have upwards : partOf p = .parent := by rw [partOf, parent]; rfl
      rw [List.map_cons, upwards] at refused ⊢
      have early : (cut && (ps.map partOf).isEmpty) = false := by
        rw [Bool.eq_false_iff]
        intro last
        rw [Bool.and_eq_true, List.isEmpty_iff] at last
        exact refused last
      refine ⟨.parentInName, s, ?_, holds.length⟩
      rw [pushParts, early]
      rfl
    · have other : (p == [46, 46]) = false := beq_false_of_ne parent
      have named : partOf p = .name p := by rw [partOf, other]; rfl
      rw [List.map_cons, named] at refused ⊢
      have put : pushParts cut alone (.name p :: ps.map partOf) slash s =
          (if slash then s.push [47] else .ok s) >>= fun s =>
            s.push p >>= pushParts cut alone (ps.map partOf) true := by
        cases slash <;> simp [pushParts, Part.bytes]
      rw [put]
      rcases holds.slash_outcome slash with ⟨s₁, done₁, slashed, holds₁⟩ | ⟨fault, slashed⟩
      · rcases holds₁.push_outcome p with ⟨s₂, here, holds₂, clear⟩ | ⟨fault, here⟩
        · have rest : ¬ Pushable cut (ps.map partOf) := fun rest => refused ⟨clear, rest⟩
          obtain ⟨fault, s', later, length⟩ := ih rest true holds₂
          exact ⟨fault, s', by simp only [slashed, bind, Except.bind, here, later], length⟩
        · exact ⟨fault, s₁, by simp only [slashed, bind, Except.bind, here], holds₁.length⟩
      · exact ⟨fault, s, by simp only [slashed, bind, Except.bind], holds.length⟩

end ClassForge.Tar
