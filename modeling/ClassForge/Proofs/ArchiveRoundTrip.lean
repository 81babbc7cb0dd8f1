import ClassForge.Proofs.RewrittenArchives
import ClassForge.Proofs.TreePaths

/-!
An archive that is written from a ledger is read as the same entries, whatever happened to them
before, when all its names are of the kind that is stored as it is.
-/
namespace ClassForge
open Text

namespace Text

theorem joined_flatMap {α β : Type} (f : α → List β) (sep : α) (ps : List (List α)) :
    (joined [sep] ps).flatMap f = joined (f sep) (ps.map (·.flatMap f)) := by
  induction ps with
  | nil => rfl
  | cons p ps ih =>
    cases ps with
    | nil => rfl
    | cons q ps =>
      simp only [joined, List.map_cons, List.flatMap_append] at ih ⊢
      rw [ih, List.flatMap_singleton]

theorem pieces_encode (s : String) : pieces 47 (Utf8.encode s) =
    (pieces '/' s.toList).map (·.flatMap String.utf8EncodeChar) := by
  have whole : Utf8.encode s =
      joined [47] ((pieces '/' s.toList).map (·.flatMap String.utf8EncodeChar)) := by
    have slash : String.utf8EncodeChar '/' = [47] := by decide
    rw [Utf8.encode, ← slash, ← joined_flatMap, joined_pieces]
  rw [whole, pieces_joined]
  · simpa using pieces_ne_nil '/' s.toList
  · intro p piece member
    obtain ⟨q, here, rfl⟩ := List.mem_map.mp piece
    obtain ⟨c, inside, found⟩ := List.mem_flatMap.mp member
    have slash : c = '/' := Char.toNat_inj.mp (Utf8.ascii_of_mem found (by decide))
    exact (mem_of_mem_pieces '/' here inside).2 slash

end Text

namespace Tar

def fileMembers (files : List (String × Bytes)) : List Member :=
  files.map fun (name, data) => ⟨Utf8.encode name, 0, data⟩

section
variable {files : List (String × Bytes)} (plain : ∀ f ∈ files, Plain (Utf8.encode f.1))
include plain

theorem storedMembers_plain : files.map storedMember = fileMembers files :=
  List.map_congr_left fun f member => by
    rw [storedMember, (plain f member).stored]
    rfl

theorem all_stored : ∀ f ∈ files, (stored? (Utf8.encode f.1)).isSome := fun f member => by
  rw [(plain f member).stored]
  rfl

theorem write_readAll (short : ∀ f ∈ files, (Utf8.encode f.1).length < memoryLimit)
    (small : ∀ f ∈ files, f.2.length < memoryLimit) :
    (write files).fault = none ∧ ReadAll (write files).bytes (fileMembers files) := by
  rw [← storedMembers_plain plain]
  exact write_stored short small (all_stored plain)

end

theorem files_of_members {bytes : Bytes} {written : List (String × Bytes)}
    (read : members bytes = .ok (fileMembers written)) : files bytes = .ok written := by
  rw [files_of_regular read (List.forall_mem_map.mpr fun _ _ => rfl)]
  simp [fileMembers, Function.comp_def, Utf8.decodeLossy_encode]

/-- A name that an archive keeps as it is. -/
structure ArchiveName (name : String) : Prop where
  proper : ∀ c ∈ FileTree.components name, c ≠ "" ∧ c ≠ "." ∧ c ≠ ".."
  clear : Char.ofNat 0 ∉ name.toList

theorem ArchiveName.plain {name : String} (h : ArchiveName name) : Plain (Utf8.encode name) := by
  have injective : ∀ cs ds : List Char, cs.flatMap String.utf8EncodeChar =
      ds.flatMap String.utf8EncodeChar → cs = ds := by
    intro cs ds same
    rw [← Utf8.decodeLossy_encoded cs, same, Utf8.decodeLossy_encoded]
  constructor
  · intro p piece
    rw [pieces_encode] at piece
    obtain ⟨cs, here, rfl⟩ := List.mem_map.mp piece
    obtain ⟨some, notCurrent, notParent⟩ := h.proper _ (List.mem_map_of_mem here)
    refine ⟨fun same => some ?_, fun same => notCurrent ?_, fun same => notParent ?_⟩
    · rw [injective cs [] same]
    · rw [injective cs ['.'] same]
    · rw [injective cs ['.', '.'] same]
  · intro zero
    obtain ⟨c, inside, found⟩ := List.mem_flatMap.mp zero
    have nul : c = Char.ofNat 0 := Char.toNat_inj.mp (Utf8.ascii_of_mem found (by decide))
    exact h.clear (nul ▸ inside)

end Tar

namespace Ledger

def contents (l : Ledger) : List (String × Bytes) := l.map fun e => (e.name, e.bytes)

variable {l : Ledger}

/-- What is written from a ledger is read as its entries, in order, with their names and with the
bytes that they had come to, as if nothing had been done to them yet. -/
theorem write_read (named : ∀ e ∈ l, Tar.ArchiveName e.name)
    (short : ∀ e ∈ l, (Utf8.encode e.name).length < Tar.memoryLimit)
    (small : ∀ e ∈ l, e.bytes.length < Tar.memoryLimit) :
    ∃ bytes, l.write = .ok bytes ∧
      ofArchive bytes = .ok (l.map fun e => ⟨e.name, e.bytes, .pending⟩) := by
  let files := l.map fun e => (e.name, e.bytes)
  have plain : ∀ f ∈ files, Tar.Plain (Utf8.encode f.1) := by
    simpa [files] using fun e member => (named e member).plain
  obtain ⟨faultless, whole⟩ := Tar.write_readAll plain (by simpa [files] using short)
    (by simpa [files] using small)
  have read : Tar.files l.written.bytes = .ok files := Tar.files_of_members whole.members
  refine ⟨l.written.bytes, ?_, ?_⟩
  · rw [write, writeError, written, faultless]
    rfl
  · rw [ofArchive, read]
    simp [files, ofFiles, Function.comp_def]

/-- A name that is too long for a header, and one of which the bytes are new. -/
theorem write_read_rehearsed :
    let long := String.ofList (List.replicate 101 'a')
    let l : Ledger := [⟨long, [0, 1], .retained⟩,
      ⟨"stage/Play", [2], .replaced (Artifact.ofBytes ⟨"stage.Play"⟩ [])⟩]
    (∀ e ∈ l, Tar.ArchiveName e.name) ∧ ∃ bytes, l.write = .ok bytes ∧
      ofArchive bytes = .ok [⟨long, [0, 1], .pending⟩, ⟨"stage/Play", [], .pending⟩] := by
  intro long l
  have letters : long.toList = List.replicate 101 'a' := String.toList_ofList
  have longNamed : Tar.ArchiveName long := by
    constructor
    · have undivided : '/' ∉ long.toList := by simp [letters]
      rw [FileTree.components_of_undivided undivided]
      have other : ∀ c : String, c.toList.length < 101 → long ≠ c := by
        rintro c less rfl
        simp [letters] at less
      simpa using ⟨other "" (by decide), other "." (by decide), other ".." (by decide)⟩
    · rw [letters]
      decide
  have playNamed : Tar.ArchiveName "stage/Play" := ⟨by decide, by decide⟩
  have named : ∀ e ∈ l, Tar.ArchiveName e.name := by simp [l, longNamed, playNamed]
  have short : ∀ e ∈ l, (Utf8.encode e.name).length < Tar.memoryLimit := by
    simp only [l, List.forall_mem_cons, Utf8.encode, letters]
    decide
  exact ⟨named, write_read named short (by decide)⟩

end Ledger

end ClassForge
