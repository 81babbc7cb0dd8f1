import ClassForge.Proofs.ArchiveHeaders

/-!
Reading members. A header, its data and the padding after them are one step of a reader, which is
then at what follows: it has a member, or an announcement for the next one. Nothing in the data is
taken for a header.
-/
namespace ClassForge.Tar

/-- What a member with its data amounts to: one announcement about the next, or itself. -/
def pieceOf (a : Announced) (recognized : Bool) (m : Member) : Except Fault Piece :=
  if recognized && m.type == 76 then
    if a.longName.isSome then .error .repeatedLongName
    else .ok (.announcement { a with longName := some m.data })
  else if recognized && m.type == 75 then
    if a.longLink.isSome then .error .repeatedLongLink
    else .ok (.announcement { a with longLink := some m.data })
  else if recognized && m.type == 120 then
    if a.extensions.isSome then .error .repeatedExtensions
    else .ok (.announcement { a with extensions := some m.data })
  else .ok (.member m)

theorem padded_length (data : Bytes) :
    (data ++ padding data.length).length = padded data.length := by
  simp only [List.length_append, padding, List.length_replicate, padded]
  omega

section
variable {block : Bytes} {size : Nat} {type : UInt8} (heads : Heads block size type)
  (dense : type ≠ 83) {a : Announced} (unextended : a.extensions = none)
  (within : size + blockSize < numberLimit)
include heads dense unextended within

/-- Behind a header as much is read as it says, up to the end of a block; less is refused. -/
theorem readPiece_eq (rest : Bytes) :
    readPiece a block rest =
      if lacks (padded size) rest then .error .shortData
      else (pieceOf a (isGnu block || isUstar block)
        ⟨memberName a block, type, rest.take size⟩).map (·, rest.drop (padded size)) := by
  have summed : (sum block != sum block % 0x100000000) = false := by
    rw [Nat.mod_eq_of_lt heads.fits, bne_self_eq_false]
  obtain ⟨length, checked, stated, typed⟩ := heads
  have sized : (if size = 0 then (a.extensions.bind (extensionNumber? "size")).getD 0 else size) =
      size := by
    rw [unextended]
    split
    · rename_i zero
      exact zero.symm
    · rfl
  have solid : (type == 83) = false := by simpa using dense
  have countable : ¬ numberLimit ≤ size + blockSize := by omega
  unfold readPiece
  rw [checked, stated]
  simp only [bind, Except.bind, summed, sized, typed, solid, countable, Nat.zero_mul,
    List.drop_zero, Bool.false_and, Bool.false_eq_true, ↓reduceIte]
  split
  · rfl
  · rw [pieceOf]
    repeat' split
    all_goals rfl

theorem readPiece_of_heads {data : Bytes} (fills : data.length = size) (more : Bytes) :
    readPiece a block (data ++ (padding size ++ more)) =
      (pieceOf a (isGnu block || isUstar block) ⟨memberName a block, type, data⟩).map
        (·, more) := by
  have rounded : (data ++ padding size).length = padded size := fills ▸ padded_length data
  have enough : lacks (padded size) (data ++ (padding size ++ more)) = false := by
    rw [← List.append_assoc]
    exact lacks_append rounded more
  have inside : (data ++ (padding size ++ more)).take size = data := List.take_left' fills
  have beyond : (data ++ (padding size ++ more)).drop (padded size) = more := by
    rw [← List.append_assoc, List.drop_left' rounded]
  rw [readPiece_eq heads dense unextended within, enough, inside, beyond, if_neg (by decide)]

end

theorem isZero_of_heads {block : Bytes} {size : Nat} {type : UInt8}
    (heads : Heads block size type) : isZero block = false := by
  rw [Bool.eq_false_iff]
  intro zero
  -- In a block of zeros there would be no checksum to read.
  have zeros : block = List.replicate blockSize 0 := by
    rw [← heads.length, List.eq_replicate_iff]
    refine ⟨rfl, fun b member => ?_⟩
    rw [isZero, List.all_eq_true] at zero
    simpa using zero b member
  have unread : octal (field (List.replicate blockSize 0) 148 8) = .error .number := by
    have clear : truncated (field (List.replicate blockSize 0) 148 8) = [] := by decide
    rw [octal, octal?, clear]
    simp [Text.Utf8.decode?, Text.trim, Text.trimLeft, Text.trimRight, Number.readUnsigned?]
  have checked := heads.checked
  rw [zeros, unread] at checked
  cases checked

theorem readMembers_of_heads {block : Bytes} {size : Nat} {type : UInt8}
    (heads : Heads block size type) (dense : type ≠ 83) {a : Announced}
    (unextended : a.extensions = none) (within : size + blockSize < numberLimit) {data : Bytes}
    (fills : data.length = size) (more : Bytes) (fuel : Nat) :
    readMembers (fuel + 1) a (block ++ (data ++ (padding size ++ more))) =
      match pieceOf a (isGnu block || isUstar block) ⟨memberName a block, type, data⟩ with
      | .error fault => .error fault
      | .ok (.announcement b) => readMembers fuel b more
      | .ok (.member m) => (readMembers fuel {} more).map (m :: ·) := by
  have length := heads.length
  have some : (block ++ (data ++ (padding size ++ more))).isEmpty = false := by
    cases block with
    | nil => cases length
    | cons b block => rfl
  have enough := lacks_append length (data ++ (padding size ++ more))
  rw [readMembers]
  simp only [some, enough, List.take_left' length, List.drop_left' length, isZero_of_heads heads,
    readPiece_of_heads heads dense unextended within fills, Bool.false_eq_true, ↓reduceIte]
  rcases pieceOf a (isGnu block || isUstar block) ⟨memberName a block, type, data⟩ with
    fault | (b | m)
  · rfl
  · rfl
  · simp only [Except.map, bind, Except.bind]
    cases readMembers fuel {} more <;> rfl

/-- A block of zeros ends the archive, whatever follows it. -/
theorem readMembers_zeros (more : Bytes) (fuel : Nat) :
    readMembers (fuel + 1) {} (List.replicate blockSize 0 ++ more) = .ok [] := by
  have length : (List.replicate blockSize (0 : UInt8)).length = blockSize := List.length_replicate
  have zero : isZero (List.replicate blockSize 0) = true := by
    rw [isZero, List.all_replicate]
    rfl
  have some : (List.replicate blockSize (0 : UInt8) ++ more).isEmpty = false := rfl
  rw [readMembers]
  simp only [some, lacks_append length more, List.take_left' length, zero, Bool.false_eq_true,
    ↓reduceIte]
  rfl

section
variable {data : Bytes} (within : data.length + blockSize < numberLimit) (more : Bytes) (fuel : Nat)
include within

theorem readMembers_file {name : Bytes} (named : name.length = nameLength) {a : Announced}
    (unextended : a.extensions = none) :
    readMembers (fuel + 1) a (blocks (fileHeader name data.length) data ++ more) =
      (readMembers fuel {} more).map
        (⟨(a.longName.map withoutLastZero).getD (truncated name), 0, data⟩ :: ·) := by
  have owned : (List.replicate 8 (0 : UInt8)).length = 8 := List.length_replicate
  have heads := header_heads named owned data.length 0 (by omega)
  have shown := header_name named owned data.length 0
  rw [← fileHeader] at heads shown
  have called : memberName a (fileHeader name data.length) =
      (a.longName.map withoutLastZero).getD (truncated name) := by
    rw [memberName, unextended, ← shown]
    cases a.longName <;> rfl
  have plain : ∀ recognized : Bool, ∀ m : Member, m.type = 0 →
      pieceOf a recognized m = .ok (.member m) := by
    intro recognized m file
    simp [pieceOf, file]
  rw [blocks, List.append_assoc, List.append_assoc,
    readMembers_of_heads heads (by decide) unextended within rfl, plain _ _ rfl, called]

end

theorem longNameMember_eq {path : Bytes} (within : path.length + 1 < numberLimit) :
    ∃ block, longNameMember path = blocks block (path ++ [0]) ∧
      Heads block (path.length + 1) 76 ∧ isGnu block = true := by
  have marker : (ascii "././@LongLink").length = 13 := by decide
  have named : (ascii "././@LongLink" ++
      List.replicate (nameLength - (ascii "././@LongLink").length) 0).length = nameLength := by
    rw [List.length_append, List.length_replicate, marker]
    rfl
  have owned : (octalField 7 0).length = 8 := octalField_length (by decide) (by decide)
  exact ⟨_, rfl, header_heads named owned (path.length + 1) 76 within,
    header_gnu named owned (path.length + 1) 76⟩

theorem readMembers_longName {path : Bytes} (within : path.length + 1 + blockSize < numberLimit)
    (more : Bytes) (fuel : Nat) :
    readMembers (fuel + 1) {} (longNameMember path ++ more) =
      readMembers fuel { longName := some (path ++ [0]) } more := by
  obtain ⟨block, written, heads, gnu⟩ := @longNameMember_eq path (by omega)
  rw [written, blocks, List.append_assoc, List.append_assoc, List.length_append,
    List.length_singleton, readMembers_of_heads heads (by decide) rfl within (by simp), gnu]
  rfl

/-- Bytes that are read as one member, by as many steps as there are headers in them. -/
def ReadAs (bytes : Bytes) (m : Member) : Prop :=
  ∃ steps ≤ bytes.length, ∀ more fuel, readMembers (fuel + steps) {} (bytes ++ more) =
    (readMembers fuel {} more).map (m :: ·)

def ReadAll (bytes : Bytes) (ms : List Member) : Prop :=
  ∃ steps ≤ bytes.length, ∀ fuel, readMembers (fuel + 1 + steps) {} bytes = .ok ms

theorem nil_readAll : ReadAll [] [] := ⟨0, Nat.zero_le _, fun _ => rfl⟩

theorem zeros_readAll (more : Bytes) : ReadAll (List.replicate blockSize 0 ++ more) [] :=
  ⟨0, Nat.zero_le _, readMembers_zeros more⟩

theorem ending_eq : ending = List.replicate blockSize 0 ++ List.replicate blockSize 0 := by
  rw [ending, Nat.two_mul, List.replicate_append_replicate]

theorem ending_readAll : ReadAll ending [] := ending_eq ▸ zeros_readAll _

theorem ReadAs.append {bytes rest : Bytes} {m : Member} {ms : List Member} (first : ReadAs bytes m)
    (later : ReadAll rest ms) : ReadAll (bytes ++ rest) (m :: ms) := by
  obtain ⟨steps, fewer, read⟩ := first
  obtain ⟨steps', fewer', read'⟩ := later
  refine ⟨steps' + steps, by rw [List.length_append]; omega, fun fuel => ?_⟩
  rw [← Nat.add_assoc, read, read']
  rfl

theorem readAll_flatMap {α : Type} {bytes : α → Bytes} {member : α → Member} {xs : List α}
    (each : ∀ x ∈ xs, ReadAs (bytes x) (member x)) {trailer : Bytes} (ends : ReadAll trailer []) :
    ReadAll (xs.flatMap bytes ++ trailer) (xs.map member) := by
  induction xs with
  | nil => exact ends
  | cons x xs ih =>
    obtain ⟨first, rest⟩ := List.forall_mem_cons.mp each
    rw [List.flatMap_cons, List.append_assoc, List.map_cons]
    exact first.append (ih rest)

theorem ReadAll.members {bytes : Bytes} {ms : List Member} (whole : ReadAll bytes ms) :
    members bytes = .ok ms := by
  obtain ⟨steps, fewer, read⟩ := whole
  have enough : bytes.length + 1 = bytes.length - steps + 1 + steps := by omega
  rw [Tar.members, enough, read]

section
variable {data : Bytes} (within : data.length + blockSize < numberLimit)
include within

theorem fileHeader_length {name : Bytes} (named : name.length = nameLength) :
    (fileHeader name data.length).length = blockSize :=
  (header_heads named List.length_replicate data.length 0 (by omega)).length

theorem file_readAs {name : Bytes} (named : name.length = nameLength) :
    ReadAs (blocks (fileHeader name data.length) data) ⟨truncated name, 0, data⟩ := by
  refine ⟨1, ?_, fun more fuel => readMembers_file within more fuel named rfl⟩
  simp [blocks, fileHeader_length within named, blockSize]
  omega

theorem longName_readAs {name path : Bytes} (named : name.length = nameLength)
    (long : path.length + 1 + blockSize < numberLimit) :
    ReadAs (longNameMember path ++ blocks (fileHeader name data.length) data) ⟨path, 0, data⟩ := by
  refine ⟨2, ?_, fun more fuel => ?_⟩
  · simp [blocks, fileHeader_length within named, blockSize]
    omega
  · have announced : withoutLastZero (path ++ [0]) = path := by simp [withoutLastZero]
    have first := readMembers_longName long (blocks (fileHeader name data.length) data ++ more)
      (fuel + 1)
    rw [List.append_assoc]
    refine first.trans ?_
    rw [readMembers_file within more fuel named rfl]
    simp only [Option.map_some, Option.getD_some, announced]

end

theorem files_of_regular {bytes : Bytes} {ms : List Member} (read : members bytes = .ok ms)
    (regular : ∀ m ∈ ms, m.type = 0) :
    files bytes = .ok (ms.map fun m => (String.ofList (Text.Utf8.decodeLossy m.name), m.data)) := by
  have all : ms.filter Member.isFile = ms :=
    List.filter_eq_self.mpr fun m member => by rw [Member.isFile, regular m member]; rfl
  rw [files, read]
  simp only [bind, Except.bind, pure, Except.pure, all]

end ClassForge.Tar
