import ClassForge.Proofs.HeaderNumbers
import ClassForge.Tar.Reader

/-!
Headers of an archive. What is written at the fields of a header is read there, and its checksum is
right.
-/
namespace ClassForge.Tar

theorem field_between {front here : Bytes} {start length : Nat} (starts : front.length = start)
    (fills : here.length = length) (back : Bytes) :
    field (front ++ (here ++ back)) start length = here := by
  rw [field, List.drop_left' starts, List.take_left' fills]

theorem sum_around {front check : Bytes} (starts : front.length = 148)
    (fills : check.length = 8) (back : Bytes) :
    sum (front ++ (check ++ back)) = (front ++ back).foldl (fun n b => n + b.toNat) (8 * 32) := by
  have later : (front ++ (check ++ back)).drop 156 = back := by
    rw [← List.append_assoc, List.drop_left' (by simp [starts, fills])]
  rw [sum, List.take_left' starts, later]

theorem sum_bounded (bs : Bytes) (start : Nat) :
    bs.foldl (fun n b => n + b.toNat) start ≤ start + 255 * bs.length := by
  induction bs generalizing start with
  | nil => simp
  | cons b bs ih =>
    have rest := ih (start + b.toNat)
    have most := b.toNat_lt
    rw [List.foldl_cons, List.length_cons]
    omega

theorem sum_small {block : Bytes} (length : block.length = blockSize) : sum block < 0x200000 := by
  have bounded := sum_bounded (block.take 148 ++ block.drop 156) (8 * 32)
  rw [List.length_append, List.length_take, List.length_drop, length] at bounded
  rw [sum]
  simp only [blockSize] at bounded
  omega

structure Heads (block : Bytes) (size : Nat) (type : UInt8) : Prop where
  length : block.length = blockSize
  checked : octal (field block 148 8) = .ok (sum block)
  stated : numeric (field block 124 12) = .ok size
  typed : typeByte block = type

theorem Heads.fits {block : Bytes} {size : Nat} {type : UInt8} (heads : Heads block size type) :
    sum block < 0x100000000 := Nat.lt_trans (sum_small heads.length) (by decide)

def headerFront (name owner : Bytes) (size : Nat) : Bytes :=
  name ++ octalField 7 0o644 ++ owner ++ owner ++ (sizeField size ++ octalField 11 0)

def headerBack (type : UInt8) : Bytes :=
  [type] ++ List.replicate 100 0 ++ (ascii "ustar  " ++ [0] ++ List.replicate 247 0)

theorem magic_length : (ascii "ustar  ").length = 7 := by decide

theorem headerBack_length (type : UInt8) : (headerBack type).length = 356 := by
  simp only [headerBack, List.length_append, List.length_cons, List.length_nil,
    List.length_replicate, magic_length]

section
variable {name owner : Bytes} (named : name.length = nameLength) (owned : owner.length = 8)
  (size : Nat) (type : UInt8)
include named owned

theorem headerFront_length : (headerFront name owner size).length = 148 := by
  have mode : (octalField 7 0o644).length = 8 := octalField_length (by decide) (by decide)
  have time : (octalField 11 0).length = 12 := octalField_length (by decide) (by decide)
  simp [headerFront, named, owned, mode, time, sizeField_length, nameLength]

omit named owned in
theorem header_unchecked :
    header name owner size type = withChecksum (headerFront name owner size ++
      (List.replicate 8 0 ++ headerBack type)) := by
  have zeros : List.replicate 248 (0 : UInt8) = [0] ++ List.replicate 247 0 := rfl
  rw [header, headerFront, headerBack, zeros]
  simp only [List.append_assoc]

theorem header_eq : ∃ check, check.length = 8 ∧
    header name owner size type = headerFront name owner size ++ (check ++ headerBack type) ∧
    octal check = .ok (sum (header name owner size type)) := by
  let blank : Bytes := List.replicate 8 0
  let block := headerFront name owner size ++ (blank ++ headerBack type)
  have front := headerFront_length named owned size
  have small : sum block < Number.capacity 8 7 := by
    have whole : block.length = blockSize := by
      simp [block, blank, front, headerBack_length, blockSize]
    exact sum_small whole
  have length : (octalField 7 (sum block)).length = 8 := octalField_length (by decide) small
  have written : header name owner size type =
      headerFront name owner size ++ (octalField 7 (sum block) ++ headerBack type) := by
    have later : block.drop 156 = headerBack type := by
      simp only [block]
      rw [← List.append_assoc, List.drop_left' (by simp [front, blank])]
    rw [header_unchecked]
    change withChecksum block = _
    rw [withChecksum, List.take_left' front, later, List.append_assoc]
  have same : sum (header name owner size type) = sum block := by
    rw [written, sum_around front length, sum_around front List.length_replicate]
  refine ⟨_, length, written, ?_⟩
  have within : sum block < numberLimit := Nat.lt_trans small (by decide)
  rw [same]
  exact octal_octalField (by decide) small within

theorem header_heads (within : size < numberLimit) :
    Heads (header name owner size type) size type := by
  obtain ⟨check, length, written, read⟩ := header_eq named owned size type
  have front := headerFront_length named owned size
  constructor
  · simp [written, front, length, headerBack_length, blockSize]
  · rw [← read]
    rw [written, field_between front length]
  · have mode : (octalField 7 0o644).length = 8 := octalField_length (by decide) (by decide)
    rw [written, headerFront, List.append_assoc, List.append_assoc (sizeField size),
      field_between (by simp [named, owned, mode, nameLength]) (sizeField_length size)]
    exact numeric_sizeField within
  · rw [typeByte, written, ← List.append_assoc, List.drop_left' (by simp [front, length])]
    rfl

theorem header_magic : field (header name owner size type) 257 8 = ascii "ustar  " ++ [0] := by
  obtain ⟨check, length, written, -⟩ := header_eq named owned size type
  have front := headerFront_length named owned size
  have split : header name owner size type =
      (headerFront name owner size ++ check ++ [type] ++ List.replicate 100 0) ++
        ((ascii "ustar  " ++ [0]) ++ List.replicate 247 0) := by
    rw [written, headerBack]
    simp only [List.append_assoc]
  rw [split]
  refine field_between ?_ (by simp [magic_length]) _
  simp only [List.length_append, List.length_singleton, List.length_replicate, front, length]

theorem header_gnu : isGnu (header name owner size type) = true := by
  rw [isGnu, header_magic named owned, beq_self_eq_true]

theorem header_name : headerName (header name owner size type) = truncated name := by
  obtain ⟨check, length, written, -⟩ := header_eq named owned size type
  have older : isUstar (header name owner size type) = false := by
    rw [isUstar, header_magic named owned]
    decide
  have there : field (header name owner size type) 0 100 = name := by
    rw [written, headerFront]
    simp only [List.append_assoc]
    exact @field_between [] name 0 100 rfl named _
  simp only [headerName, older, there, Bool.false_and, Bool.false_eq_true, ↓reduceIte]

end

end ClassForge.Tar
