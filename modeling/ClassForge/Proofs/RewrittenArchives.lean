import ClassForge.Proofs.StoredNames
import ClassForge.Proofs.Utf8RoundTrip
import ClassForge.Source.Archive

/-!
Archives that are written from a ledger with any names. The first entry of which the name cannot be
stored ends the writing; when there is none, the archive that was written has the names that those
of the ledger are stored as, which need not be the same.
-/
namespace ClassForge
open Text

namespace Tar

def storedName? (name : String) : Option String :=
  (stored? (Utf8.encode name)).map fun bytes => String.ofList (Utf8.decodeLossy bytes)

def storedMember (f : String × Bytes) : Member :=
  ⟨(stored? (Utf8.encode f.1)).getD [], 0, f.2⟩

def body (files : List (String × Bytes)) : Bytes :=
  files.flatMap fun f => (fileMember (Utf8.encode f.1) f.2).1

theorem write_body {files : List (String × Bytes)}
    (all : ∀ f ∈ files, (stored? (Utf8.encode f.1)).isSome) (more : List (String × Bytes)) :
    write (files ++ more) = ⟨body files ++ (write more).bytes, (write more).fault⟩ := by
  induction files with
  | nil => rfl
  | cons f files ih =>
    obtain ⟨first, rest⟩ := List.forall_mem_cons.mp all
    obtain ⟨name, stored⟩ := Option.isSome_iff_exists.mp first
    have outcome := fileMember_put (Utf8.encode f.1) f.2
    rw [stored] at outcome
    obtain ⟨bytes, written⟩ : ∃ bytes, fileMember (Utf8.encode f.1) f.2 = (bytes, none) := by
      obtain ⟨s, -, ⟨-, written⟩ | ⟨-, written⟩⟩ := outcome
      · exact ⟨_, written⟩
      · exact ⟨_, written⟩
    rw [List.cons_append, write, written, body, List.flatMap_cons, written]
    simp only [ih rest, body, List.append_assoc]

theorem write_append {files : List (String × Bytes)}
    (all : ∀ f ∈ files, (stored? (Utf8.encode f.1)).isSome) (more : List (String × Bytes)) :
    ∃ begun, (write files).bytes = begun ++ ending ∧
      (write (files ++ more)).bytes = begun ++ (write more).bytes ∧
      (write (files ++ more)).fault = (write more).fault := by
  have alone := write_body all []
  rw [List.append_nil] at alone
  exact ⟨body files, by rw [alone]; rfl, by rw [write_body all], by rw [write_body all]⟩

theorem write_refused {f : String × Bytes} (refused : stored? (Utf8.encode f.1) = none)
    (more : List (String × Bytes)) :
    ∃ fault, write (f :: more) = ⟨announced (Utf8.encode f.1) ++ ending, some (f.1, fault)⟩ := by
  have outcome := fileMember_put (Utf8.encode f.1) f.2
  rw [refused] at outcome
  obtain ⟨fault, written⟩ := outcome
  exact ⟨fault, by rw [write, written]⟩

/-- The first file without a name to be stored under is the one that is blamed. -/
theorem write_blames (files : List (String × Bytes)) : (write files).fault.map (·.1) =
    (files.find? fun f => (stored? (Utf8.encode f.1)).isNone).map (·.1) := by
  cases first : files.find? fun f => (stored? (Utf8.encode f.1)).isNone with
  | none =>
    have all : ∀ f ∈ files, (stored? (Utf8.encode f.1)).isSome := fun f member => by
      simpa [Option.isSome_iff_ne_none] using List.find?_eq_none.mp first f member
    obtain ⟨-, -, -, faultless⟩ := write_append all []
    rw [List.append_nil] at faultless
    rw [faultless]
    rfl
  | some f =>
    obtain ⟨refused, before, after, rfl, all⟩ := List.find?_eq_some_iff_append.mp first
    obtain ⟨fault, ended⟩ := write_refused (Option.isNone_iff_eq_none.mp refused) after
    obtain ⟨-, -, -, blamed⟩ := write_append (fun g member => by simpa using all g member) (f :: after)
    rw [blamed, ended]
    rfl

theorem fileMember_readAs {f : String × Bytes} (short : (Utf8.encode f.1).length < memoryLimit)
    (small : f.2.length < memoryLimit) (all : (stored? (Utf8.encode f.1)).isSome) :
    ReadAs (fileMember (Utf8.encode f.1) f.2).1 (storedMember f) := by
  obtain ⟨name, stored⟩ := Option.isSome_iff_exists.mp all
  obtain ⟨bytes, written, read⟩ := fileMember_stored short small stored
  rw [written, storedMember, stored]
  exact read

theorem write_stored {files : List (String × Bytes)}
    (short : ∀ f ∈ files, (Utf8.encode f.1).length < memoryLimit)
    (small : ∀ f ∈ files, f.2.length < memoryLimit)
    (all : ∀ f ∈ files, (stored? (Utf8.encode f.1)).isSome) :
    (write files).fault = none ∧ ReadAll (write files).bytes (files.map storedMember) := by
  have written := write_body all []
  rw [List.append_nil] at written
  rw [written]
  refine ⟨rfl, readAll_flatMap (fun f member => ?_) ending_readAll⟩
  exact fileMember_readAs (short f member) (small f member) (all f member)

end Tar

namespace Ledger

structure Rewrites (l : Ledger) : Prop where
  written_iff : (∃ bytes, l.write = .ok bytes) ↔ ∀ e ∈ l, (Tar.storedName? e.name).isSome
  /-- Names that lead nowhere upwards do not keep a ledger from being written. -/
  downward : (∀ e ∈ l, Tar.Downward false (Utf8.encode e.name)) → ∃ bytes, l.write = .ok bytes
  blamed : ∀ e, l.find? (fun e => (Tar.storedName? e.name).isNone) = some e →
    ∃ fault : Tar.Fault,
      l.write = .error (.io ("writing archive entry " ++ e.name) (.archive fault.message))
  read_back : ∀ bytes, l.write = .ok bytes → ∃ l', ofArchive bytes = .ok l' ∧
    l'.names.map some = l.names.map Tar.storedName? ∧ l'.map (·.initial) = l.map (·.bytes)
  same_iff : (∃ bytes l', l.write = .ok bytes ∧ ofArchive bytes = .ok l' ∧ l'.names = l.names) ↔
    ∀ e ∈ l, Tar.storedName? e.name = some e.name

section
variable {l : Ledger}

theorem write_eq_ok {bytes : Bytes} :
    l.write = .ok bytes ↔ l.written.fault = none ∧ l.written.bytes = bytes := by
  rw [write, writeError]
  cases l.written.fault <;> simp

theorem written_blames (l : Ledger) : l.written.fault.map (·.1) =
    (l.find? fun e => (Tar.storedName? e.name).isNone).map (·.name) := by
  have unnamed : (fun e : LedgerEntry => (Tar.storedName? e.name).isNone) =
      (fun f : String × Bytes => (Tar.stored? (Utf8.encode f.1)).isNone) ∘
        fun e => (e.name, e.bytes) := by
    funext e
    exact Option.isNone_map
  rw [written, Tar.write_blames, List.find?_map, unnamed, Option.map_map]
  rfl

theorem write_ok_iff : (∃ bytes, l.write = .ok bytes) ↔
    ∀ e ∈ l, (Tar.storedName? e.name).isSome := by
  have faultless : l.written.fault = none ↔
      l.find? (fun e => (Tar.storedName? e.name).isNone) = none := by
    rw [← Option.map_eq_none_iff, written_blames, Option.map_eq_none_iff]
  simp only [write_eq_ok, exists_and_left, exists_eq', and_true, faultless, List.find?_eq_none]
  simp [Option.isSome_iff_ne_none]

variable (short : ∀ e ∈ l, (Utf8.encode e.name).length < Tar.memoryLimit)
  (small : ∀ e ∈ l, e.bytes.length < Tar.memoryLimit)
include short small

theorem write_ok_read {bytes : Bytes} (done : l.write = .ok bytes) :
    ∃ l', ofArchive bytes = .ok l' ∧ l'.names.map some = l.names.map Tar.storedName? ∧
      l'.map (·.initial) = l.map (·.bytes) := by
  have named := write_ok_iff.mp ⟨bytes, done⟩
  have stored : ∀ e ∈ l, (Tar.stored? (Utf8.encode e.name)).isSome := fun e member => by
    simpa [Tar.storedName?] using named e member
  obtain ⟨-, rfl⟩ := write_eq_ok.mp done
  let files := l.map fun e => (e.name, e.bytes)
  have whole : Tar.ReadAll (Tar.write files).bytes (files.map Tar.storedMember) :=
    (Tar.write_stored (by simpa [files] using short) (by simpa [files] using small)
      (by simpa [files] using stored)).2
  have read := Tar.files_of_regular whole.members (List.forall_mem_map.mpr fun _ _ => rfl)
  refine ⟨_, by rw [ofArchive, written, read], ?_, ?_⟩
  · simp only [files, ofFiles, names, List.map_map]
    refine List.map_congr_left fun e member => ?_
    obtain ⟨name, kept⟩ := Option.isSome_iff_exists.mp (stored e member)
    simp [Tar.storedName?, Tar.storedMember, kept]
  · simp [files, ofFiles, Function.comp_def, Tar.storedMember]

theorem write_ok_keeps (kept : ∀ e ∈ l, Tar.storedName? e.name = some e.name) :
    ∃ bytes l', l.write = .ok bytes ∧ ofArchive bytes = .ok l' ∧ l'.names = l.names ∧
      l'.map (·.initial) = l.map (·.bytes) := by
  obtain ⟨bytes, done⟩ := write_ok_iff.mpr fun e member => by simp [kept e member]
  obtain ⟨l', opened, names, initial⟩ := write_ok_read short small done
  have same : l.names.map Tar.storedName? = l.names.map some := by
    simp only [Ledger.names, List.map_map]
    exact List.map_congr_left kept
  rw [same] at names
  exact ⟨bytes, l', done, opened, (List.map_inj_right fun _ _ => Option.some.inj).mp names, initial⟩

/-- A ledger is written when all its names can be stored, and then under the names that they are
stored as. -/
theorem written_under_stored_names : Rewrites l := by
  have ok := write_ok_iff (l := l)
  constructor
  case written_iff => exact ok
  case downward =>
    intro down
    refine ok.mpr fun e member => ?_
    rw [Tar.storedName?, Tar.stored_of_downward (down e member)]
    rfl
  case blamed =>
    intro e first
    have blames := written_blames l
    rw [first, Option.map_some] at blames
    obtain ⟨⟨name, fault⟩, faulty, rfl⟩ := Option.map_eq_some_iff.mp blames
    refine ⟨fault, ?_⟩
    rw [write, writeError, faulty]
    rfl
  case read_back => exact fun bytes => write_ok_read short small
  case same_iff =>
    constructor
    · rintro ⟨bytes, l', done, opened, same⟩ e member
      obtain ⟨l'', opened', names, -⟩ := write_ok_read short small done
      obtain rfl : l' = l'' := Except.ok.inj (opened.symm.trans opened')
      rw [same] at names
      exact (List.map_inj_left.mp names e.name (List.mem_map_of_mem member)).symm
    · intro kept
      obtain ⟨bytes, l', done, opened, same, -⟩ := write_ok_keeps short small kept
      exact ⟨bytes, l', done, opened, same⟩

end

theorem written_under_stored_names_pair :
    let l : Ledger := [⟨"./stage//Play", [1], .retained⟩, ⟨"../Play", [2], .pending⟩]
    (∀ e ∈ l, (Utf8.encode e.name).length < Tar.memoryLimit) ∧
      (∀ e ∈ l, e.bytes.length < Tar.memoryLimit) ∧ Rewrites l := by
  intro l
  have short : ∀ e ∈ l, (Utf8.encode e.name).length < Tar.memoryLimit := by decide
  have small : ∀ e ∈ l, e.bytes.length < Tar.memoryLimit := by decide
  exact ⟨short, small, written_under_stored_names short small⟩

theorem ofArchive_single {name : String} {slot data : Bytes} (length : slot.length = Tar.nameLength)
    (read : Tar.truncated slot = Utf8.encode name) (small : data.length < Tar.memoryLimit) :
    ofArchive (Tar.blocks (Tar.fileHeader slot data.length) data ++ Tar.ending) =
      .ok [⟨name, data, .pending⟩] := by
  have within : data.length + Tar.blockSize < Tar.numberLimit := by
    simp only [Tar.memoryLimit, Tar.blockSize, Tar.numberLimit] at small ⊢
    omega
  have whole := (Tar.file_readAs within length).append Tar.ending_readAll
  rw [read] at whole
  rw [ofArchive, Tar.files_of_regular whole.members (by simp)]
  simp [ofFiles, Utf8.decodeLossy_encode]

/-- Of two archives that are read, one cannot be written, and the other gets a new name. -/
theorem archives_not_written_back :
    let slot (name : String) := Utf8.encode name ++ List.replicate (100 - name.length) 0
    let archive (name : String) :=
      Tar.blocks (Tar.fileHeader (slot name) [42].length) [42] ++ Tar.ending
    let ledger (name : String) : Ledger := [⟨name, [42], .pending⟩]
    ofArchive (archive "/Play.class") = .ok (ledger "/Play.class") ∧
      write (ledger "/Play.class") = .error (.io "writing archive entry /Play.class"
        (.archive "paths in archives must be relative")) ∧
      ofArchive (archive "./Play.class") = .ok (ledger "./Play.class") ∧
      ∃ bytes l', write (ledger "./Play.class") = .ok bytes ∧
        ofArchive bytes = .ok l' ∧ l'.names = ["Play.class"] := by
  intro slot archive ledger
  have opened (name : String) (length : (slot name).length = Tar.nameLength)
      (read : Tar.truncated (slot name) = Utf8.encode name) :
      ofArchive (archive name) = .ok (ledger name) :=
    @ofArchive_single name (slot name) [42] length read (by decide)
  have refused : Tar.fileMember (Utf8.encode "/Play.class") [42] = ([], some .absoluteName) := rfl
  have unwritten : write (ledger "/Play.class") = .error (.io "writing archive entry /Play.class"
      (.archive "paths in archives must be relative")) := by
    rw [write, writeError, written]
    simp only [ledger, List.map_cons, LedgerEntry.bytes, Tar.write, refused]
    rfl
  have renamed : Tar.storedName? "./Play.class" = some "Play.class" := by decide +kernel
  have short : ∀ e ∈ ledger "./Play.class", (Utf8.encode e.name).length < Tar.memoryLimit := by
    decide
  have small : ∀ e ∈ ledger "./Play.class", e.bytes.length < Tar.memoryLimit := by decide
  obtain ⟨bytes, done⟩ : ∃ bytes, write (ledger "./Play.class") = .ok bytes :=
    write_ok_iff.mpr (by simp [ledger, renamed])
  obtain ⟨l', read, names, -⟩ := write_ok_read short small done
  refine ⟨opened _ (by decide) (by decide), unwritten, opened _ (by decide) (by decide),
    bytes, l', done, read, ?_⟩
  have same : (ledger "./Play.class").names.map Tar.storedName? = ["Play.class"].map some := by
    simp [ledger, Ledger.names, renamed]
  rw [same] at names
  exact (List.map_inj_right fun _ _ => Option.some.inj).mp names

end Ledger

end ClassForge
