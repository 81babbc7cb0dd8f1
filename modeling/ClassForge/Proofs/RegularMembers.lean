import ClassForge.Proofs.ArchiveMembers
import ClassForge.Source.Archive

/-!
What is entered in a ledger. Of the members of an archive, whatever their types and wherever they
stand, just the regular files become entries: a member of another type is passed over together with
its data. Members that are about the next one, and sparse files, are not considered here.
-/
namespace ClassForge
open Text

namespace Tar

structure RawMember where
  head : Bytes
  data : Bytes
  deriving DecidableEq, Repr

namespace RawMember

def bytes (m : RawMember) : Bytes := blocks m.head m.data

def type (m : RawMember) : UInt8 := typeByte m.head

def announces (m : RawMember) : Bool :=
  (isGnu m.head || isUstar m.head) && (m.type == 76 || m.type == 75 || m.type == 120)

def isRegular (m : RawMember) : Bool := m.type == 0 || m.type == 48

def file (m : RawMember) : String × Bytes :=
  (String.ofList (Utf8.decodeLossy (headerName m.head)), m.data)

/-- A member that stands for itself, of any type. Its header is one block with the right checksum,
and there is as much data as it says; a size to which no block can be added is not a number. -/
structure WellFormed (m : RawMember) : Prop where
  length : m.head.length = blockSize
  checked : octal (field m.head 148 8) = .ok (sum m.head)
  sized : numeric (field m.head 124 12) = .ok m.data.length
  countable : m.data.length + blockSize < numberLimit
  single : m.announces = false
  dense : m.type ≠ 83

theorem pieceOf_unannounced {recognized : Bool} {m : Member}
    (single : (recognized && (m.type == 76 || m.type == 75 || m.type == 120)) = false) :
    pieceOf {} recognized m = .ok (.member m) := by
  cases recognized with
  | false => rfl
  | true =>
    simp only [Bool.true_and, Bool.or_eq_false_iff] at single
    obtain ⟨⟨name, link⟩, extensions⟩ := single
    simp only [pieceOf, name, link, extensions, Bool.and_false, Bool.false_eq_true, ↓reduceIte]

theorem WellFormed.readAs {m : RawMember} (wellFormed : m.WellFormed) :
    ReadAs m.bytes ⟨headerName m.head, m.type, m.data⟩ := by
  have heads : Heads m.head m.data.length m.type :=
    ⟨wellFormed.length, wellFormed.checked, wellFormed.sized, rfl⟩
  refine ⟨1, ?_, fun more fuel => ?_⟩
  · rw [bytes, blocks, List.length_append, List.length_append, wellFormed.length, blockSize]
    omega
  · have alone := pieceOf_unannounced (m := ⟨memberName {} m.head, m.type, m.data⟩)
      wellFormed.single
    rw [bytes, blocks, List.append_assoc, List.append_assoc,
      readMembers_of_heads heads wellFormed.dense rfl wellFormed.countable rfl, alone]
    rfl

section
variable {name owner data : Bytes} {type : UInt8} (named : name.length = nameLength)
  (owned : owner.length = 8) (countable : data.length + blockSize < numberLimit)
include named owned countable

theorem header_type : RawMember.type ⟨header name owner data.length type, data⟩ = type :=
  (header_heads named owned data.length type (by omega)).typed

theorem header_wellFormed (single : (type == 76 || type == 75 || type == 120) = false)
    (dense : type ≠ 83) :
    WellFormed ⟨header name owner data.length type, data⟩ := by
  obtain ⟨length, checked, stated, typed⟩ := header_heads named owned data.length type (by omega)
  refine ⟨length, checked, stated, countable, ?_, fun sparse => dense (typed.symm.trans sparse)⟩
  rw [announces, header_type named owned countable, single, Bool.and_false]

end

end RawMember

/-- What ends an archive: nothing, or a block of zeros with anything behind it. -/
inductive Ends : Bytes → Prop where
  | nothing : Ends []
  | zeros (more : Bytes) : Ends (List.replicate blockSize 0 ++ more)

theorem Ends.readAll {trailer : Bytes} (ends : Ends trailer) : ReadAll trailer [] := by
  cases ends with
  | nothing => exact nil_readAll
  | zeros more => exact zeros_readAll more

def stream (ms : List RawMember) (trailer : Bytes) : Bytes :=
  ms.flatMap RawMember.bytes ++ trailer

theorem files_of_stream {ms : List RawMember} {trailer : Bytes}
    (wellFormed : ∀ m ∈ ms, m.WellFormed) (ends : Ends trailer) :
    files (stream ms trailer) = .ok ((ms.filter RawMember.isRegular).map RawMember.file) := by
  have read := (readAll_flatMap (fun m member => (wellFormed m member).readAs)
    ends.readAll).members
  rw [files, stream, read]
  simp only [bind, Except.bind, pure, Except.pure, List.filter_map, List.map_map]
  rfl

end Tar

namespace Ledger

/-- An archive of well-formed members is entered as its regular files in their order, with their
paths and data. What other members stand between them is of no account. -/
theorem regular_members_entered {ms : List Tar.RawMember} {trailer : Bytes}
    (wellFormed : ∀ m ∈ ms, m.WellFormed) (ends : Tar.Ends trailer) :
    ofArchive (Tar.stream ms trailer) =
      .ok (ofFiles ((ms.filter Tar.RawMember.isRegular).map Tar.RawMember.file)) ∧
    ∀ (ms' : List Tar.RawMember) (trailer' : Bytes), (∀ m ∈ ms', m.WellFormed) →
      Tar.Ends trailer' →
      ms'.filter Tar.RawMember.isRegular = ms.filter Tar.RawMember.isRegular →
      ofArchive (Tar.stream ms' trailer') = ofArchive (Tar.stream ms trailer) := by
  constructor
  · rw [ofArchive, Tar.files_of_stream wellFormed ends]
  · intro ms' trailer' wellFormed' ends' same
    rw [ofArchive, ofArchive, Tar.files_of_stream wellFormed ends,
      Tar.files_of_stream wellFormed' ends', same]

/-- A directory, a link with data and a device stand around two files. -/
theorem regular_members_entered_mixed :
    let slot (name : String) := Utf8.encode name ++ List.replicate (100 - name.length) 0
    let member (name : String) (type : UInt8) (data : Bytes) : Tar.RawMember :=
      ⟨Tar.header (slot name) (List.replicate 8 0) data.length type, data⟩
    let ms := [member "stage/" 53 [], member "stage/Play" 48 [4, 5], member "Play" 50 [1, 2, 3],
      member "cast" 0 [], member "curtain" 51 [9]]
    let files := [member "stage/Play" 48 [4, 5], member "cast" 0 []]
    (∀ m ∈ ms, m.WellFormed) ∧ Tar.Ends Tar.ending ∧
      ofArchive (Tar.stream ms Tar.ending) =
        .ok [⟨"stage/Play", [4, 5], .pending⟩, ⟨"cast", [], .pending⟩] ∧
      ofArchive (Tar.stream files []) = ofArchive (Tar.stream ms Tar.ending) := by
  intro slot member ms files
  have countable (data : Bytes) (short : data.length < 4) :
      data.length + Tar.blockSize < Tar.numberLimit := by
    simp only [Tar.blockSize, Tar.numberLimit]
    omega
  have wellFormed (name : String) (type : UInt8) (data : Bytes)
      (fits : (slot name).length = Tar.nameLength) (short : data.length < 4)
      (single : (type == 76 || type == 75 || type == 120) = false) (dense : type ≠ 83) :
      (member name type data).WellFormed :=
    Tar.RawMember.header_wellFormed fits (by decide) (countable data short) single dense
  have typed (name : String) (type : UInt8) (data : Bytes)
      (fits : (slot name).length = Tar.nameLength) (short : data.length < 4) :
      (member name type data).isRegular = (type == 0 || type == 48) := by
    rw [Tar.RawMember.isRegular, Tar.RawMember.header_type fits (by decide) (countable data short)]
  have called (name : String) (type : UInt8) (data : Bytes)
      (fits : (slot name).length = Tar.nameLength)
      (read : Tar.truncated (slot name) = Utf8.encode name) :
      (member name type data).file = (name, data) := by
    rw [Tar.RawMember.file, Tar.header_name fits (by decide), read, Utf8.decodeLossy_encode,
      String.ofList_toList]
  have all : ∀ m ∈ ms, m.WellFormed := by
    simp only [ms, List.forall_mem_cons]
    refine ⟨?_, ?_, ?_, ?_, ?_, List.forall_mem_nil _⟩
    all_goals exact wellFormed _ _ _ (by decide) (by decide) (by decide) (by decide)
  have ends : Tar.Ends Tar.ending := Tar.ending_eq ▸ .zeros _
  have regular : ms.filter Tar.RawMember.isRegular = files := by
    simp only [ms, List.filter_cons, List.filter_nil]
    rw [typed _ _ _ (by decide) (by decide), typed _ _ _ (by decide) (by decide),
      typed _ _ _ (by decide) (by decide), typed _ _ _ (by decide) (by decide),
      typed _ _ _ (by decide) (by decide)]
    rfl
  obtain ⟨entered, unchanged⟩ := regular_members_entered all ends
  refine ⟨all, ends, entered.trans ?_, ?_⟩
  · rw [regular, List.map_cons, List.map_singleton, called _ _ _ (by decide) (by decide),
      called _ _ _ (by decide) (by decide)]
    rfl
  · refine unchanged files [] (fun m among => ?_) .nothing ?_
    · exact all m (List.mem_filter.mp (regular ▸ among)).1
    · rw [← regular, List.filter_filter]
      simp only [Bool.and_self]

end Ledger

end ClassForge
