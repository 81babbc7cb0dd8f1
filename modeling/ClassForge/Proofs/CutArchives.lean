import ClassForge.Proofs.ArchiveRoundTrip

/-!
Archives that were cut off. A reader asks for one more member after each that it has, so a member
that is not there to its last byte of padding is noticed: what a beginning of an archive is read as
is a fault, or the entries that are wholly in it.
-/
namespace ClassForge
open Text

theorem begins_append {α : Type} {cut front back : List α} (begins : cut <+: front ++ back) :
    cut <+: front ∧ cut.length < front.length ∨ ∃ rest, cut = front ++ rest ∧ rest <+: back := by
  rcases List.prefix_or_prefix_of_prefix begins (List.prefix_append front back) with inside | beyond
  · rcases Nat.lt_or_ge cut.length front.length with short | long
    · exact .inl ⟨inside, short⟩
    · obtain rfl := inside.eq_of_length_le long
      exact .inr ⟨[], (List.append_nil cut).symm, List.nil_prefix⟩
  · obtain ⟨rest, rfl⟩ := beyond
    exact .inr ⟨rest, rfl, (List.prefix_append_right_inj front).mp begins⟩

namespace Tar

theorem readMembers_short {cut : Bytes} (begun : cut ≠ []) (short : cut.length < blockSize)
    (a : Announced) (fuel : Nat) : readMembers (fuel + 1) a cut = .error .shortHeader := by
  have some : cut.isEmpty = false := by simpa using begun
  have headless := (lacks_iff blockSize cut).mpr short
  rw [readMembers]
  simp only [some, headless, Bool.false_eq_true, ↓reduceIte]

theorem readMembers_cut {block : Bytes} {size : Nat} {type : UInt8} (heads : Heads block size type)
    (dense : type ≠ 83) {a : Announced} (unextended : a.extensions = none)
    (within : size + blockSize < numberLimit) {cut data : Bytes} (begun : cut ≠ [])
    (fills : data.length = size) (begins : cut <+: blocks block data)
    (short : cut.length < (blocks block data).length) (fuel : Nat) :
    ∃ fault, readMembers (fuel + 1) a cut = .error fault := by
  rw [blocks, List.append_assoc] at begins short
  rcases begins_append begins with ⟨-, headless⟩ | ⟨rest, rfl, -⟩
  · exact ⟨.shortHeader, readMembers_short begun (heads.length ▸ headless) a fuel⟩
  · have some : (block ++ rest).isEmpty = false := by simpa using begun
    have lacking : lacks (padded size) rest = true := by
      have rounded := padded_length data
      rw [lacks_iff]
      simp only [List.length_append, fills] at short rounded
      omega
    rw [readMembers]
    simp only [some, lacks_append heads.length rest, List.take_left' heads.length,
      List.drop_left' heads.length, isZero_of_heads heads,
      readPiece_eq heads dense unextended within, lacking, Bool.false_eq_true, ↓reduceIte]
    exact ⟨.shortData, rfl⟩

/-- Bytes of which no beginning can be read, unless it is empty or all of them. -/
def Brittle (bytes : Bytes) : Prop :=
  ∀ cut, cut <+: bytes → cut.length < bytes.length → cut ≠ [] →
    ∀ fuel, cut.length < fuel → ∃ fault, readMembers fuel {} cut = .error fault

section
variable {data : Bytes} (within : data.length + blockSize < numberLimit)
include within

theorem file_cut {name : Bytes} (named : name.length = nameLength) {a : Announced}
    (unextended : a.extensions = none) {cut : Bytes} (begun : cut ≠ [])
    (begins : cut <+: blocks (fileHeader name data.length) data)
    (short : cut.length < (blocks (fileHeader name data.length) data).length) (fuel : Nat) :
    ∃ fault, readMembers (fuel + 1) a cut = .error fault :=
  have heads := header_heads named List.length_replicate data.length 0 (by omega)
  readMembers_cut heads (by decide) unextended within begun rfl begins short fuel

theorem file_brittle {name : Bytes} (named : name.length = nameLength) :
    Brittle (blocks (fileHeader name data.length) data) := by
  intro cut begins short begun fuel enough
  cases fuel with
  | zero => omega
  | succ fuel => exact file_cut within named rfl begun begins short fuel

theorem longName_brittle {name path : Bytes} (named : name.length = nameLength)
    (long : path.length + 1 + blockSize < numberLimit) :
    Brittle (longNameMember path ++ blocks (fileHeader name data.length) data) := by
  intro cut begins short begun fuel enough
  obtain ⟨block, written, heads, -⟩ := @longNameMember_eq path (by omega)
  obtain ⟨fuel, rfl⟩ : ∃ less, fuel = less + 1 := ⟨fuel - 1, by omega⟩
  rcases begins_append begins with ⟨first, early⟩ | ⟨rest, rfl, later⟩
  · rw [written] at first early
    exact readMembers_cut heads (by decide) rfl long begun (by simp) first early fuel
  · have some : 0 < (longNameMember path).length := by
      rw [written, blocks, List.append_assoc, List.length_append, heads.length, blockSize]
      omega
    rw [List.length_append] at enough
    obtain ⟨fuel, rfl⟩ : ∃ less, fuel = less + 1 := ⟨fuel - 1, by omega⟩
    rw [readMembers_longName long]
    by_cases ended : rest = []
    · subst ended
      exact ⟨.danglingExtension, rfl⟩
    · rw [List.length_append, List.length_append] at short
      exact file_cut within named rfl ended later (by omega) fuel

end

theorem fileMember_brittle {f : String × Bytes} (short : (Utf8.encode f.1).length < memoryLimit)
    (small : f.2.length < memoryLimit) (all : (stored? (Utf8.encode f.1)).isSome) :
    Brittle (fileMember (Utf8.encode f.1) f.2).1 := by
  simp only [memoryLimit] at short small
  have within : f.2.length + blockSize < numberLimit := by
    simp only [blockSize, numberLimit]
    omega
  obtain ⟨name, stored⟩ := Option.isSome_iff_exists.mp all
  have outcome := fileMember_put (Utf8.encode f.1) f.2
  rw [stored] at outcome
  obtain ⟨s, length, ⟨-, written⟩ | ⟨-, written⟩⟩ := outcome
  · rw [written]
    exact file_brittle within length
  · rw [written]
    exact longName_brittle within length (by simp only [blockSize, numberLimit]; omega)

theorem readMembers_cut_ending {cut : Bytes} (begins : cut <+: ending) (fuel : Nat) :
    (∃ fault, readMembers (fuel + 1) {} cut = .error fault) ∨
      readMembers (fuel + 1) {} cut = .ok [] := by
  by_cases ended : cut = []
  · subst ended
    exact .inr rfl
  · rw [ending_eq] at begins
    rcases begins_append begins with ⟨-, short⟩ | ⟨rest, rfl, -⟩
    · rw [List.length_replicate] at short
      exact .inl ⟨_, readMembers_short ended short {} fuel⟩
    · exact .inr (readMembers_zeros rest fuel)

theorem readMembers_begun {α : Type} {bytes : α → Bytes} {member : α → Member} {xs : List α}
    (each : ∀ x ∈ xs, ReadAs (bytes x) (member x)) (brittle : ∀ x ∈ xs, Brittle (bytes x))
    {cut : Bytes} (begins : cut <+: xs.flatMap bytes ++ ending) {fuel : Nat}
    (enough : cut.length < fuel) :
    (∃ fault, readMembers fuel {} cut = .error fault) ∨
      ∃ k ≤ xs.length, readMembers fuel {} cut = .ok ((xs.take k).map member) ∧
        (xs.take k).flatMap bytes <+: cut ∧ (k < xs.length → cut = (xs.take k).flatMap bytes) := by
  induction xs generalizing cut fuel with
  | nil =>
    obtain ⟨fuel, rfl⟩ : ∃ less, fuel = less + 1 := ⟨fuel - 1, by omega⟩
    refine (readMembers_cut_ending begins fuel).imp_right fun read => ?_
    exact ⟨0, Nat.le_refl 0, read, List.nil_prefix, fun some => absurd some (Nat.lt_irrefl 0)⟩
  | cons x xs ih =>
    obtain ⟨first, rest⟩ := List.forall_mem_cons.mp each
    obtain ⟨brittleFirst, brittleRest⟩ := List.forall_mem_cons.mp brittle
    rw [List.flatMap_cons, List.append_assoc] at begins
    rcases begins_append begins with ⟨inside, short⟩ | ⟨later, rfl, behind⟩
    · by_cases ended : cut = []
      · obtain ⟨fuel, rfl⟩ : ∃ less, fuel = less + 1 := ⟨fuel - 1, by omega⟩
        subst ended
        exact .inr ⟨0, Nat.zero_le _, rfl, List.nil_prefix, fun _ => rfl⟩
      · exact .inl (brittleFirst cut inside short ended fuel enough)
    · -- The first member is whole, and there are steps left for what is behind it.
      obtain ⟨steps, fewer, read⟩ := first
      rw [List.length_append] at enough
      obtain ⟨left, rfl⟩ : ∃ left, fuel = left + steps := ⟨fuel - steps, by omega⟩
      rw [read]
      rcases ih rest brittleRest behind (by omega : later.length < left) with
        ⟨fault, refused⟩ | ⟨k, most, whole, kept, cutThere⟩
      · exact .inl ⟨fault, by rw [refused]; rfl⟩
      · refine .inr ⟨k + 1, Nat.succ_le_succ most, by rw [whole]; rfl, ?_, fun early => ?_⟩
        · rw [List.take_succ_cons, List.flatMap_cons]
          exact (List.prefix_append_right_inj _).mpr kept
        · rw [List.take_succ_cons, List.flatMap_cons, ← cutThere (Nat.lt_of_succ_lt_succ early)]

section
variable {files : List (String × Bytes)} (plain : ∀ f ∈ files, Plain (Utf8.encode f.1))
  (short : ∀ f ∈ files, (Utf8.encode f.1).length < memoryLimit)
  (small : ∀ f ∈ files, f.2.length < memoryLimit)
include plain short small

theorem files_of_body {trailer : Bytes} (ends : ReadAll trailer []) :
    Tar.files (body files ++ trailer) = .ok files := by
  have whole : ReadAll (body files ++ trailer) (files.map storedMember) :=
    readAll_flatMap (fun f member =>
      fileMember_readAs (short f member) (small f member) (all_stored plain f member)) ends
  rw [storedMembers_plain plain] at whole
  exact files_of_members whole.members

theorem files_begun {cut : Bytes} (begins : cut <+: body files ++ ending) :
    (∃ fault, Tar.files cut = .error fault) ∨
      ∃ k ≤ files.length, Tar.files cut = .ok (files.take k) ∧ body (files.take k) <+: cut ∧
        (k < files.length → cut = body (files.take k)) := by
  have each (f : String × Bytes) (member : f ∈ files) :=
    fileMember_readAs (short f member) (small f member) (all_stored plain f member)
  have brittle (f : String × Bytes) (member : f ∈ files) :=
    fileMember_brittle (short f member) (small f member) (all_stored plain f member)
  rcases readMembers_begun each brittle begins (Nat.lt_succ_self cut.length) with
    ⟨fault, refused⟩ | ⟨k, most, read, whole, between⟩
  · exact .inl ⟨fault, by rw [Tar.files, members, refused]; rfl⟩
  · have first : ∀ f ∈ files.take k, Plain (Utf8.encode f.1) := fun f among =>
      plain f (List.mem_of_mem_take among)
    rw [storedMembers_plain first] at read
    exact .inr ⟨k, most, files_of_members read, whole, between⟩

end

end Tar

namespace Ledger
variable {l : Ledger}

structure Undamaged (files : List (String × Bytes)) (cut : Bytes) : Prop where
  /-- A fault, or the first files, of each of which every member is there with its padding. -/
  read : (∃ err, ofArchive cut = .error err) ∨ ∃ k ≤ files.length,
    ofArchive cut = .ok (ofFiles (files.take k)) ∧ Tar.body (files.take k) <+: cut
  complete : ofArchive cut = .ok (ofFiles files) → Tar.body files <+: cut
  /-- If there are fewer files, the archive ends between two of them. -/
  between : ∀ k < files.length, ofArchive cut = .ok (ofFiles (files.take k)) →
    cut = Tar.body (files.take k)

theorem length_ofFiles (files : List (String × Bytes)) : (ofFiles files).length = files.length :=
  List.length_map _

theorem undamaged_of_first {files : List (String × Bytes)} {cut : Bytes} {k : Nat}
    (most : k ≤ files.length) (read : ofArchive cut = .ok (ofFiles (files.take k)))
    (whole : Tar.body (files.take k) <+: cut)
    (between : k < files.length → cut = Tar.body (files.take k)) : Undamaged files cut where
  read := .inr ⟨k, most, read, whole⟩
  complete all := by
    have same := congrArg List.length (Except.ok.inj (read.symm.trans all))
    rw [length_ofFiles, length_ofFiles, List.length_take] at same
    rwa [List.take_of_length_le (by omega)] at whole
  between j fewer first := by
    have same := congrArg List.length (Except.ok.inj (read.symm.trans first))
    rw [length_ofFiles, length_ofFiles, List.length_take, List.length_take] at same
    obtain rfl : k = j := by omega
    exact between fewer

section
variable (named : ∀ e ∈ l, Tar.ArchiveName e.name)
  (short : ∀ e ∈ l, (Utf8.encode e.name).length < Tar.memoryLimit)
  (small : ∀ e ∈ l, e.bytes.length < Tar.memoryLimit)
include named short small

/-- An archive that was cut off anywhere has no damaged entry: either it is refused, or its entries
are the first of those that were written, each of them whole. -/
theorem cut_archives_undamaged :
    l.write = .ok (Tar.body l.contents ++ Tar.ending) ∧
    ofArchive (Tar.body l.contents ++ Tar.ending) = .ok (ofFiles l.contents) ∧
    (∀ cut, cut <+: Tar.body l.contents ++ Tar.ending → Undamaged l.contents cut) ∧
    ∀ k, ofArchive (Tar.body (l.contents.take k)) = .ok (ofFiles (l.contents.take k)) := by
  have plain : ∀ f ∈ l.contents, Tar.Plain (Utf8.encode f.1) :=
    List.forall_mem_map.mpr fun e member => (named e member).plain
  have shortFiles : ∀ f ∈ l.contents, (Utf8.encode f.1).length < Tar.memoryLimit :=
    List.forall_mem_map.mpr short
  have smallFiles : ∀ f ∈ l.contents, f.2.length < Tar.memoryLimit := List.forall_mem_map.mpr small
  refine ⟨?_, ?_, fun cut begins => ?_, fun k => ?_⟩
  · have written := Tar.write_body (Tar.all_stored plain) []
    rw [List.append_nil] at written
    exact write_eq_ok.mpr (by rw [Ledger.written, ← contents, written]; exact ⟨rfl, rfl⟩)
  · rw [ofArchive, Tar.files_of_body plain shortFiles smallFiles Tar.ending_readAll]
  · rcases Tar.files_begun plain shortFiles smallFiles begins with
      ⟨fault, refused⟩ | ⟨k, most, read, whole, between⟩
    · have failed : ofArchive cut = .error (unreadable fault.message) := by
        rw [ofArchive, refused]
      exact ⟨.inl ⟨_, failed⟩, fun read => by simp [failed] at read,
        fun _ _ read => by simp [failed] at read⟩
    · exact undamaged_of_first most (by rw [ofArchive, read]) whole between
  · have first (f : String × Bytes) (among : f ∈ l.contents.take k) := List.mem_of_mem_take among
    have read := Tar.files_of_body (fun f among => plain f (first f among))
      (fun f among => shortFiles f (first f among)) (fun f among => smallFiles f (first f among))
      Tar.nil_readAll
    rw [List.append_nil] at read
    rw [ofArchive, read]

end

/-- Two entries, of which the first is left when the archive ends behind it. -/
theorem cut_archives_undamaged_pair :
    let l : Ledger := [⟨"stage/Play", [0, 1], .retained⟩,
      ⟨"cast", [2], .replaced (Artifact.ofBytes ⟨"cast"⟩ [3, 4])⟩]
    (∀ e ∈ l, Tar.ArchiveName e.name) ∧
      (∀ e ∈ l, (Utf8.encode e.name).length < Tar.memoryLimit) ∧
      (∀ e ∈ l, e.bytes.length < Tar.memoryLimit) ∧
      ofArchive (Tar.body (l.contents.take 1)) = .ok [⟨"stage/Play", [0, 1], .pending⟩] ∧
      Undamaged l.contents ((Tar.body l.contents ++ Tar.ending).take 700) := by
  intro l
  have play : Tar.ArchiveName "stage/Play" := ⟨by decide, by decide⟩
  have cast : Tar.ArchiveName "cast" := ⟨by decide, by decide⟩
  have named : ∀ e ∈ l, Tar.ArchiveName e.name := by simp [l, play, cast]
  have short : ∀ e ∈ l, (Utf8.encode e.name).length < Tar.memoryLimit := by decide
  have small : ∀ e ∈ l, e.bytes.length < Tar.memoryLimit := by decide
  obtain ⟨-, -, undamaged, between⟩ := cut_archives_undamaged named short small
  exact ⟨named, short, small, between 1, undamaged _ (List.take_prefix 700 _)⟩

end Ledger

end ClassForge
