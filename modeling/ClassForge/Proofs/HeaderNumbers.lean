import ClassForge.Proofs.NumberTexts
import ClassForge.Proofs.Utf8RoundTrip
import ClassForge.Tar.Writer

/-!
Numbers in headers. What is written as octal digits or, from a certain size on, as bytes, is read
back as the same number.
-/
namespace ClassForge
open Number Text

namespace Tar
open Number

theorem truncated_append {bs more : Bytes} (clear : 0 ∉ bs)
    (stops : ∀ b, more.head? = some b → b = 0) : truncated (bs ++ more) = bs := by
  have kept : ∀ b ∈ bs, (b != 0) = true := by
    intro b member
    rw [bne_iff_ne]
    rintro rfl
    exact clear member
  rw [truncated, List.takeWhile_append_of_pos kept]
  cases more with
  | nil => simp
  | cons b more => simp [stops b rfl]

def digitByte (d : Nat) : UInt8 := UInt8.ofNat (48 + d)

theorem digitBytes_encoded {ds : List Nat} (small : ∀ d ∈ ds, d < 8) :
    (ds.map digitChar).flatMap String.utf8EncodeChar = ds.map digitByte := by
  have single : ∀ d < 8, String.utf8EncodeChar (digitChar d) = [digitByte d] := by decide
  induction ds with
  | nil => rfl
  | cons d rest ih =>
    obtain ⟨here, later⟩ := List.forall_mem_cons.mp small
    simp [single d here, ih later]

theorem octal?_digits {ds : List Nat} (small : ∀ d ∈ ds, d < 8) (some : ds ≠ [])
    (within : value 8 ds < numberLimit) (more : Bytes) :
    octal? (ds.map digitByte ++ 0 :: more) = Option.some (value 8 ds) := by
  have nonzero : ∀ d < 8, digitByte d ≠ 0 := by decide
  have unblank : ∀ d < 8, isBlank (digitChar d) = false := by decide
  have stop : truncated (ds.map digitByte ++ 0 :: more) = ds.map digitByte := by
    refine truncated_append (fun zero => ?_) (by simp)
    obtain ⟨d, member, same⟩ := List.mem_map.mp zero
    exact nonzero d (small d member) same
  have trimmed : trim (ds.map digitChar) = ds.map digitChar := by
    apply trim_of_unblank
    intro c member
    obtain ⟨d, digit, rfl⟩ := List.mem_map.mp member
    exact unblank d (small d digit)
  rw [octal?, stop, ← digitBytes_encoded small, Utf8.decode?_encoded]
  simp only [bind, Option.bind, trimmed]
  exact readUnsigned?_digits (by decide) small some (by omega)

theorem octalField_digits {length n : Nat} (positive : 0 < length)
    (fits : n < capacity 8 length) :
    ∃ ds, ds.length = length ∧ (∀ d ∈ ds, d < 8) ∧ value 8 ds = n ∧
      octalField length n = ds.map digitByte ++ [0] := by
  obtain ⟨ds, some, size, small, worth, shown⟩ := render_digits (by decide : 2 ≤ 8) n
  have short : ds.length ≤ length := by
    have := digits_length n length fits
    omega
  refine ⟨List.replicate (length - ds.length) 0 ++ ds, by simp; omega, ?_,
    (value_zeros 8 _ ds).trans worth, ?_⟩
  · intro d member
    rcases List.mem_append.mp member with zero | digit
    · rw [List.eq_of_mem_replicate zero]
      decide
    · exact small d digit
  · have written : ascii (String.ofList (render 8 n)) = ds.map digitByte := by
      rw [ascii, Utf8.encode, String.toList_ofList, shown, digitBytes_encoded small]
    rw [octalField, written]
    simp [digitByte]

theorem octalField_length {length n : Nat} (positive : 0 < length)
    (fits : n < capacity 8 length) :
    (octalField length n).length = length + 1 := by
  obtain ⟨ds, size, -, -, written⟩ := octalField_digits positive fits
  simp [written, size]

theorem octal_octalField {length n : Nat} (positive : 0 < length) (fits : n < capacity 8 length)
    (within : n < numberLimit) : octal (octalField length n) = .ok n := by
  obtain ⟨ds, size, small, worth, written⟩ := octalField_digits positive fits
  have some : ds ≠ [] := List.ne_nil_of_length_pos (size ▸ positive)
  rw [octal, written, octal?_digits small some (worth ▸ within) [], worth]

theorem shiftRight_bytes (n k : Nat) : n >>> (8 * k) = n / capacity 256 k := by
  induction k with
  | zero => simp [capacity]
  | succ k ih =>
    have byte : ∀ m : Nat, m >>> 8 = m / 256 := fun m => Nat.shiftRight_eq_div_pow m 8
    rw [Nat.mul_succ, Nat.shiftRight_add, ih, byte, Nat.div_div_eq_div_mul, capacity]

theorem foldl_bytes (n k start : Nat) :
    ((List.range k).map fun i => UInt8.ofNat (n >>> (8 * (k - 1 - i)))).foldl
      (fun acc b => acc * 256 + b.toNat) start =
        start * capacity 256 k + n % capacity 256 k := by
  induction k generalizing start with
  | zero => simp [capacity, Nat.mod_one]
  | succ k ih =>
    have first : (UInt8.ofNat (n >>> (8 * k))).toNat = n / capacity 256 k % 256 := by
      rw [UInt8.toNat_ofNat', shiftRight_bytes]
    have later : (fun i => UInt8.ofNat (n >>> (8 * (k + 1 - 1 - i)))) ∘ Nat.succ =
        fun i => UInt8.ofNat (n >>> (8 * (k - 1 - i))) := by
      funext i
      have shift : k + 1 - 1 - i.succ = k - 1 - i := by omega
      rw [Function.comp_apply, shift]
    rw [List.range_succ_eq_map, List.map_cons, List.map_map, List.foldl_cons, later, ih]
    simp only [Nat.add_sub_cancel, Nat.sub_zero, first]
    calc (start * 256 + n / capacity 256 k % 256) * capacity 256 k + n % capacity 256 k
        = start * (capacity 256 k * 256) +
            (n % capacity 256 k + capacity 256 k * (n / capacity 256 k % 256)) := by grind
      _ = start * capacity 256 (k + 1) + n % capacity 256 (k + 1) := by
        rw [capacity, Nat.mod_mul]

theorem numeric_sizeField {n : Nat} (within : n < numberLimit) : numeric (sizeField n) = .ok n := by
  rw [sizeField]
  split
  · rename_i small
    obtain ⟨ds, size, digits, -, written⟩ := octalField_digits (by decide : 0 < 11) small
    have read := octal_octalField (by decide : 0 < 11) small within
    have plain : ∀ d < 8, ¬ 128 ≤ (digitByte d).toNat := by decide
    cases ds with
    | nil => cases size
    | cons d rest =>
      rw [written] at read ⊢
      have first := plain d (digits d List.mem_cons_self)
      simpa only [List.map_cons, List.cons_append, numeric, first, ↓reduceIte] using read
  · have last : extended (128 :: (List.range 11).map fun i => UInt8.ofNat (n >>> (8 * (10 - i)))) =
        ((List.range 8).map fun i => UInt8.ofNat (n >>> (8 * (8 - 1 - i)))).foldl
          (fun acc b => acc * 256 + b.toNat) 0 := by
      simp only [extended, List.range, List.range.loop, List.map_cons, List.map_nil]
      rfl
    rw [numeric, if_pos (by decide), last, foldl_bytes, Nat.zero_mul]
    exact congrArg Except.ok ((Nat.zero_add _).trans (Nat.mod_eq_of_lt within))

theorem sizeField_length (n : Nat) : (sizeField n).length = 12 := by
  rw [sizeField]
  split
  · rename_i small
    exact octalField_length (by decide) small
  · simp

end Tar
end ClassForge
