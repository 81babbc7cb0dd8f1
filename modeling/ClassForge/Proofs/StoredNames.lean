import ClassForge.Proofs.ArchiveMembers
import ClassForge.Proofs.ArchiveNames

/-!
What becomes of any name that is written. A name that is relative and leads nowhere upwards is put
into a header without what means nothing in it; if it is too long for one, or has another flaw that
only shows after the first bytes, it is announced in full; any other name is refused.
-/
namespace ClassForge.Tar
open Text

/-- The pieces of a path that mean something: none that is empty, and no `.`. -/
def kept (path : Bytes) : List Bytes := (pieces 47 path).filter fun p => p != [] && p != [46]

/-- The pieces that are put for a path; for one without a meaning it is the current place. -/
def shown (path : Bytes) : List Bytes := if kept path = [] then [[46]] else kept path

/-- The form in which a path is put into a header; a slash at the end stays. -/
def normal (path : Bytes) : Bytes :=
  joined [47] (shown path) ++ slashBytes (path.getLast? == some 47)

/-- A path that can be put into a header if it is not too long. Only the last piece of a path that
was cut off may lead upwards. -/
structure Downward (cut : Bool) (path : Bytes) : Prop where
  present : path ≠ []
  relative : path.head? ≠ some 47
  clear : 0 ∉ path
  inside : [46, 46] ∉ if cut then (shown path).dropLast else shown path

instance (cut : Bool) (path : Bytes) : Decidable (Downward cut path) :=
  decidable_of_iff (path ≠ [] ∧ path.head? ≠ some 47 ∧ 0 ∉ path ∧
      [46, 46] ∉ if cut then (shown path).dropLast else shown path)
    ⟨fun ⟨a, b, c, d⟩ => ⟨a, b, c, d⟩, fun ⟨a, b, c, d⟩ => ⟨a, b, c, d⟩⟩

/-- The name under which a path is stored: its normal form if that can be put into a header, the
path itself if its beginning can. -/
def stored? (path : Bytes) : Option Bytes :=
  if Downward false path ∧ (normal path).length ≤ nameLength then some (normal path)
  else if nameLength ≤ path.length ∧ Downward true (wholeChars (path.take nameLength)) then
    some path
  else none

theorem parts_relative {path : Bytes} (present : path ≠ []) (relative : path.head? ≠ some 47) :
    parts path = Part.current :: (kept path).map partOf ∨
      parts path = (kept path).map partOf ∧ kept path ≠ [] := by
  obtain ⟨b, rest, rfl⟩ := List.exists_cons_of_ne_nil present
  obtain ⟨p, ps, here⟩ := List.exists_cons_of_ne_nil (pieces_ne_nil 47 rest)
  have other : (b == 47) = false := by simpa using relative
  have first : pieces 47 (b :: rest) = (b :: p) :: ps := by rw [pieces, other, here]; rfl
  have same : kept (b :: rest) =
      (((b :: p) :: ps).filter (!·.isEmpty)).filter (· != [46]) := by
    rw [kept, first, List.filter_filter]
    refine List.filter_congr fun q _ => ?_
    cases q <;> simp [Bool.and_comm]
  have start : ((b :: rest).head? == some 47) = false := by simpa using relative
  have named : (fun p : Bytes => if p == [46, 46] then Part.parent else .name p) = partOf := rfl
  have filled : (b :: p).isEmpty = false := rfl
  rw [parts, same, first, start, named]
  generalize b :: p = q at filled
  by_cases current : q = [46]
  · left
    simp [current]
  · right
    simp [filled, current]

theorem pushParts_shown {path : Bytes} (present : path ≠ []) (relative : path.head? ≠ some 47)
    (cut : Bool) (s : Slot) :
    ∃ alone, pushParts cut ((parts path).length == 1) (parts path) false s =
      pushParts cut alone ((shown path).map partOf) false s := by
  rcases parts_relative present relative with current | named
  · rw [current, shown]
    by_cases none : kept path = []
    · refine ⟨true, ?_⟩
      simp [none, pushParts, partOf, Part.bytes]
    · refine ⟨false, ?_⟩
      have several : (((kept path).map partOf).length + 1 == 1) = false := by simp [none]
      rw [if_neg none, List.length_cons, several, pushParts]
      rfl
  · obtain ⟨named, some⟩ := named
    exact ⟨_, by rw [named, shown, if_neg some]⟩

section
variable {cut : Bool} {path : Bytes}

theorem shown_ne_nil (path : Bytes) : shown path ≠ [] := by
  rw [shown]
  split
  · simp
  · assumption

theorem mem_shown {p : Bytes} (member : p ∈ shown path) : p = [46] ∨ p ∈ pieces 47 path := by
  rw [shown] at member
  split at member
  · exact .inl (List.mem_singleton.mp member)
  · exact .inr ((List.mem_filter.mp member).1)

theorem shown_clear_iff : (∀ p ∈ shown path, 0 ∉ p) ↔ 0 ∉ path := by
  constructor
  · intro clear zero
    obtain ⟨p, piece, inside⟩ := exists_mem_pieces 47 zero (by decide)
    have means : p ∈ kept path := by
      refine List.mem_filter.mpr ⟨piece, ?_⟩
      have some : p ≠ [] := List.ne_nil_of_mem inside
      have other : p ≠ [46] := by
        rintro rfl
        exact absurd inside (by decide)
      simp [some, other]
    have some : kept path ≠ [] := List.ne_nil_of_mem means
    exact clear p (by rwa [shown, if_neg some]) inside
  · intro clear p member zero
    rcases mem_shown member with rfl | piece
    · exact absurd zero (by decide)
    · exact clear (mem_of_mem_pieces 47 piece zero).1

theorem downward_iff (present : path ≠ []) (relative : path.head? ≠ some 47) :
    Downward cut path ↔ Pushable cut ((shown path).map partOf) := by
  rw [pushable_partOf, shown_clear_iff]
  exact ⟨fun h => ⟨h.clear, h.inside⟩, fun ⟨clear, inside⟩ => ⟨present, relative, clear, inside⟩⟩

theorem normal_eq (path : Bytes) :
    normal path =
      pushed false ((shown path).map partOf) ++ slashBytes (path.getLast? == some 47) := by
  have bytes : ((shown path).map partOf).map Part.bytes = shown path := by
    rw [List.map_map]
    exact (List.map_congr_left fun p _ => partOf_bytes p).trans (List.map_id _)
  rw [(pushed_eq_joined _).1, bytes, normal]

theorem putName_relative (cut : Bool) (present : path ≠ []) (relative : path.head? ≠ some 47)
    (s : Slot) :
    ∃ alone, putName cut path s =
      pushParts cut alone ((shown path).map partOf) false ⟨s.bytes, 0⟩ >>= fun s =>
        if path.getLast? == some 47 then s.push [47] else .ok s := by
  obtain ⟨alone, put⟩ := pushParts_shown present relative cut ⟨s.bytes, 0⟩
  have some : (parts path).isEmpty = false := by
    rcases parts_relative present relative with current | ⟨named, some⟩
    · rw [current]; rfl
    · rw [named]; simp [some]
  refine ⟨alone, ?_⟩
  rw [putName]
  simp only [put, some]
  rfl

theorem putName_normal (down : Downward cut path) (fits : (normal path).length ≤ nameLength)
    {s : Slot} (length : s.bytes.length = nameLength) :
    ∃ s', putName cut path s = .ok s' ∧ s'.bytes.length = nameLength ∧
      truncated s'.bytes = normal path := by
  have pushable := (downward_iff down.present down.relative).mp down
  have some : (shown path).map partOf ≠ [] := by simpa using shown_ne_nil path
  obtain ⟨alone, put⟩ := putName_relative cut down.present down.relative s
  rw [normal_eq, List.length_append] at fits
  obtain ⟨s₁, pieces, holds, read⟩ :=
    pushParts_fits pushable alone false (fresh_holds length) (by rw [List.nil_append]; omega)
  rw [List.nil_append] at holds read
  rw [put, pieces, normal_eq]
  cases ended : path.getLast? == Option.some 47 with
  | false => exact ⟨s₁, rfl, holds.length, by simpa [slashBytes] using read (by simp) (.inl some)⟩
  | true =>
    rw [ended] at fits
    obtain ⟨s₂, slashed, holds₂, read₂⟩ := holds.push_fits [47] fits (by decide)
    exact ⟨s₂, slashed, holds₂.length, read₂ (pushed_clear pushable false)⟩

theorem putName_refused (refused : ¬ (Downward cut path ∧ (normal path).length ≤ nameLength))
    {s : Slot} (length : s.bytes.length = nameLength) :
    ∃ fault s', putName cut path s = .error (fault, s') ∧ s'.bytes.length = nameLength := by
  by_cases present : path = []
  · subst present
    exact ⟨.emptyName, ⟨s.bytes, 0⟩, rfl, length⟩
  by_cases absolute : path.head? = some 47
  · refine ⟨.absoluteName, ⟨s.bytes, 0⟩, ?_, length⟩
    rw [putName, parts, absolute]
    rfl
  obtain ⟨alone, put⟩ := putName_relative cut present absolute s
  rw [put]
  have holds := fresh_holds length
  by_cases pushable : Pushable cut ((shown path).map partOf)
  · have long : nameLength < (normal path).length := Nat.lt_of_not_le fun fits =>
      refused ⟨(downward_iff present absolute).mpr pushable, fits⟩
    rw [normal_eq, List.length_append] at long
    by_cases room : (pushed false ((shown path).map partOf)).length ≤ nameLength
    · obtain ⟨s₁, pieces, holds₁, -⟩ := pushParts_fits pushable alone false holds
        (by rwa [List.nil_append])
      cases ended : path.getLast? == some 47 with
      | false =>
        rw [ended] at long
        simp [slashBytes] at long
        omega
      | true =>
        rw [ended] at long
        have slashed := holds₁.push_long [47] (by simpa [slashBytes] using long)
        exact ⟨_, s₁, by rw [pieces]; exact slashed, holds₁.length⟩
    · obtain ⟨s₁, pieces, length₁⟩ := pushParts_long pushable alone false holds (Nat.zero_le _)
        (by rw [List.nil_append]; omega)
      exact ⟨_, s₁, by rw [pieces]; rfl, length₁⟩
  · obtain ⟨fault, s₁, pieces, length₁⟩ := pushParts_refused pushable alone false holds
    exact ⟨fault, s₁, by rw [pieces]; rfl, length₁⟩

theorem joined_filter_length (q : Bytes → Bool) (ps : List Bytes) :
    (joined [47] (ps.filter q)).length ≤ (joined [47] ps).length := by
  have longer (p : Bytes) {ps : List Bytes} (some : ps ≠ []) :
      (joined [47] (p :: ps)).length = p.length + 1 + (joined [47] ps).length := by
    obtain ⟨p', ps', rfl⟩ := List.exists_cons_of_ne_nil some
    simp only [joined, List.length_append, List.length_cons, List.length_nil]
  induction ps with
  | nil => exact Nat.le_refl _
  | cons p ps ih =>
    rw [List.filter_cons]
    by_cases last : ps = []
    · subst last
      split <;> simp [joined]
    · rw [longer p last]
      split
      · by_cases alone : ps.filter q = []
        · rw [alone, joined]
          omega
        · rw [longer p alone]
          omega
      · omega

theorem joined_shown_length (present : path ≠ []) :
    (joined [47] (shown path)).length ≤ path.length := by
  rw [shown]
  split
  · exact List.length_pos_iff.mpr present
  · have shorter := joined_filter_length (fun p => p != [] && p != [46]) (pieces 47 path)
    rwa [joined_pieces] at shorter

theorem normal_length (present : path ≠ []) (relative : path.head? ≠ some 47) :
    (normal path).length ≤ path.length := by
  cases ended : path.getLast? == some 47 with
  | false =>
    rw [normal, ended]
    simpa [slashBytes] using joined_shown_length present
  | true =>
    -- The slash at the end does not belong to a piece.
    obtain ⟨before, rfl⟩ := List.getLast?_eq_some_iff.mp (eq_of_beq ended)
    have earlier : kept (before ++ [47]) = kept before := by
      rw [kept, pieces_append, List.filter_append]
      exact List.append_nil _
    have some : before ≠ [] := by
      rintro rfl
      exact relative rfl
    rw [normal, ended, shown, earlier, ← shown]
    simpa [slashBytes] using joined_shown_length some

end

theorem wholeChars_take (bs : Bytes) : ∃ n < 4, wholeChars bs = bs.take (bs.length - n) := by
  rw [wholeChars]
  cases found : (List.range 4).findSome? fun n =>
      let part := bs.take (bs.length - n)
      if (Utf8.decode? part).isSome then some part else none with
  | none => exact ⟨0, by decide, by simp⟩
  | some part =>
    obtain ⟨n, among, kept⟩ := List.exists_of_findSome?_eq_some found
    refine ⟨n, List.mem_range.mp among, ?_⟩
    dsimp only at kept
    split at kept
    · exact (Option.some.inj kept).symm
    · cases kept

theorem wholeChars_length (bs : Bytes) : (wholeChars bs).length ≤ bs.length := by
  obtain ⟨n, -, cut⟩ := wholeChars_take bs
  rw [cut, List.length_take]
  omega

/-- Sizes of what memory can hold are less than this. -/
def memoryLimit : Nat := 0x8000000000000000

/-- What is written for a name that cannot be stored. -/
def announced (path : Bytes) : Bytes := if path.length < nameLength then [] else longNameMember path

theorem fileMember_put (path data : Bytes) :
    match stored? path with
    | some name => ∃ s : Slot, s.bytes.length = nameLength ∧
        (truncated s.bytes = name ∧
            fileMember path data = (blocks (fileHeader s.bytes data.length) data, none) ∨
          name = path ∧ fileMember path data =
            (longNameMember path ++ blocks (fileHeader s.bytes data.length) data, none))
    | none => ∃ fault, fileMember path data = (announced path, some fault) := by
  have fresh : Slot.empty.bytes.length = nameLength := List.length_replicate
  unfold stored?
  by_cases fits : Downward false path ∧ (normal path).length ≤ nameLength
  · obtain ⟨s, put, length, read⟩ := putName_normal fits.1 fits.2 fresh
    rw [if_pos fits]
    exact ⟨s, length, .inl ⟨read, by simp only [fileMember, put]⟩⟩
  · obtain ⟨fault, s, put, length⟩ := putName_refused fits fresh
    rw [if_neg fits]
    by_cases long : nameLength ≤ path.length
    · have tooLong : ¬ path.length < nameLength := by omega
      by_cases down : Downward true (wholeChars (path.take nameLength))
      · have room : (normal (wholeChars (path.take nameLength))).length ≤ nameLength :=
          Nat.le_trans (normal_length down.present down.relative)
            (Nat.le_trans (wholeChars_length _) (List.length_take_le _ _))
        obtain ⟨s', put', length', -⟩ := putName_normal down room length
        rw [if_pos ⟨long, down⟩]
        exact ⟨s', length', .inr ⟨rfl, by simp only [fileMember, put, tooLong, ↓reduceIte, put']⟩⟩
      · obtain ⟨fault', s', put', -⟩ := putName_refused (fun both => down both.1) length
        rw [if_neg (fun both => down both.2)]
        exact ⟨fault', by simp only [fileMember, put, tooLong, ↓reduceIte, put', announced]⟩
    · rw [if_neg (fun both => long both.1)]
      have tooShort : path.length < nameLength := by omega
      exact ⟨fault, by simp only [fileMember, put, tooShort, ↓reduceIte, announced]⟩

theorem fileMember_stored {path data name : Bytes} (short : path.length < memoryLimit)
    (small : data.length < memoryLimit) (stored : stored? path = some name) :
    ∃ bytes, fileMember path data = (bytes, none) ∧ ReadAs bytes ⟨name, 0, data⟩ := by
  simp only [memoryLimit] at short small
  have within : data.length + blockSize < numberLimit := by
    simp only [blockSize, numberLimit]
    omega
  have outcome := fileMember_put path data
  rw [stored] at outcome
  obtain ⟨s, length, ⟨rfl, written⟩ | ⟨rfl, written⟩⟩ := outcome
  · exact ⟨_, written, file_readAs within length⟩
  · exact ⟨_, written,
      longName_readAs within length (by simp only [blockSize, numberLimit]; omega)⟩

/-- The beginning of a path that leads nowhere upwards can be put, wherever the path is cut off. -/
theorem Downward.take {path : Bytes} (down : Downward false path) {k : Nat} (some : 0 < k) :
    Downward true (path.take k) := by
  obtain ⟨present, relative, clear, inside⟩ := down
  have begun : path.take k ≠ [] := by simp [present]; omega
  refine ⟨begun, ?_, fun zero => clear (List.mem_of_mem_take zero), fun member => ?_⟩
  · rwa [List.head?_take, if_neg (by omega)]
  · obtain ⟨before, last, first, after, cut, -, whole⟩ :=
      pieces_meet 47 (path.take k) (path.drop k)
    rw [List.take_append_drop] at whole
    rw [if_pos rfl, shown] at member
    split at member
    · cases member
    · -- Only the last piece may be one that the path does not have.
      have early : [46, 46] ∈ before := by
        rw [kept, cut, List.filter_append, List.filter_cons, List.filter_nil] at member
        split at member
        · rw [List.dropLast_concat] at member
          exact (List.mem_filter.mp member).1
        · rw [List.append_nil] at member
          exact (List.mem_filter.mp (List.dropLast_subset _ member)).1
      have upwards : [46, 46] ∈ kept path := by
        rw [kept, whole]
        exact List.mem_filter.mpr ⟨List.mem_append_left _ early, by decide⟩
      have means : kept path ≠ [] := List.ne_nil_of_mem upwards
      rw [if_neg (by decide), shown, if_neg means] at inside
      exact inside upwards

theorem stored_of_downward {path : Bytes} (down : Downward false path) :
    stored? path = some (if (normal path).length ≤ nameLength then normal path else path) := by
  by_cases fits : (normal path).length ≤ nameLength
  · rw [stored?, if_pos ⟨down, fits⟩, if_pos fits]
  · have length := normal_length down.present down.relative
    obtain ⟨n, less, cut⟩ := wholeChars_take (path.take nameLength)
    have begun : Downward true (wholeChars (path.take nameLength)) := by
      rw [cut, List.take_take]
      refine down.take ?_
      simp only [List.length_take, nameLength] at fits ⊢
      omega
    rw [stored?, if_neg (fun both => fits both.2), if_pos ⟨by omega, begun⟩, if_neg fits]

/-- A name that is stored as it is: no part is empty or leads anywhere else, and none has a zero. -/
structure Plain (path : Bytes) : Prop where
  proper : ∀ p ∈ Text.pieces 47 path, p ≠ [] ∧ p ≠ [46] ∧ p ≠ [46, 46]
  clear : 0 ∉ path

section
variable {path : Bytes} (plain : Plain path)
include plain

theorem Plain.relative : path.head? ≠ some 47 := by
  intro absolute
  obtain ⟨rest, cut⟩ := List.head?_eq_some_iff.mp absolute
  have first : [] ∈ Text.pieces 47 path := by simp [cut, Text.pieces]
  exact (plain.proper [] first).1 rfl

theorem Plain.unended : (path.getLast? == some 47) = false := by
  rw [beq_eq_false_iff_ne]
  intro ended
  obtain ⟨before, cut⟩ := List.getLast?_eq_some_iff.mp ended
  have last : [] ∈ Text.pieces 47 path := by simp [cut, Text.pieces_append, Text.pieces]
  exact (plain.proper [] last).1 rfl

theorem Plain.stored : stored? path = some path := by
  have all : kept path = pieces 47 path := List.filter_eq_self.mpr fun p piece => by
    simp [plain.proper p piece]
  have unchanged : shown path = pieces 47 path := by rw [shown, all, if_neg (pieces_ne_nil 47 path)]
  have same : normal path = path := by
    rw [normal, unchanged, joined_pieces, plain.unended]
    exact List.append_nil path
  have down : Downward false path := by
    refine ⟨?_, plain.relative, plain.clear, ?_⟩
    · rintro rfl
      exact (plain.proper [] (by simp [pieces])).1 rfl
    · rw [unchanged]
      exact fun piece => (plain.proper _ piece).2.2 rfl
  rw [stored_of_downward down, same, ite_self]

end

end ClassForge.Tar
