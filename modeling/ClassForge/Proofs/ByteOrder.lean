import ClassForge.Text.Utf8

/-!
The order of texts. What comes first by its characters comes first by its bytes too: of two
characters the lesser has the lesser byte where their encodings begin to differ.
-/
namespace ClassForge.Text.Utf8

/-- The order of byte strings, by the first byte that is not the same. -/
def Before (bs bs' : Bytes) : Prop := List.Lex (fun b b' => b.toNat < b'.toNat) bs bs'

theorem before_append (same : Bytes) {bs bs' : Bytes} (before : Before bs bs') :
    Before (same ++ bs) (same ++ bs') := by
  induction same with
  | nil => exact before
  | cons b same ih => exact .cons ih

section
variable {n m : Nat} {bs bs' : Bytes} (small : m < 256)
include small

theorem before_of_first (less : n < m) : Before (UInt8.ofNat n :: bs) (UInt8.ofNat m :: bs') := by
  apply List.Lex.rel
  rw [UInt8.toNat_ofNat', UInt8.toNat_ofNat']
  omega

/-- What follows counts only if the first bytes are equal. -/
theorem before_of_later (le : n ≤ m) (later : n = m → Before bs bs') :
    Before (UInt8.ofNat n :: bs) (UInt8.ofNat m :: bs') := by
  by_cases same : n = m
  · rw [same]
    exact .cons (later same)
  · exact before_of_first small (by omega)

end

section
variable {v w : Nat} (less : v < w) (bs bs' : Bytes)
include less

theorem before_two (most : w < 2048) :
    Before (UInt8.ofNat (v / 64 % 32 + 192) :: UInt8.ofNat (v % 64 + 128) :: bs)
      (UInt8.ofNat (w / 64 % 32 + 192) :: UInt8.ofNat (w % 64 + 128) :: bs') := by
  apply before_of_later (by omega) (by omega)
  intro first
  exact before_of_first (by omega) (by omega)

theorem before_three (most : w < 65536) :
    Before
      (UInt8.ofNat (v / 4096 % 16 + 224) :: UInt8.ofNat (v / 64 % 64 + 128) ::
        UInt8.ofNat (v % 64 + 128) :: bs)
      (UInt8.ofNat (w / 4096 % 16 + 224) :: UInt8.ofNat (w / 64 % 64 + 128) ::
        UInt8.ofNat (w % 64 + 128) :: bs') := by
  apply before_of_later (by omega) (by omega)
  intro first
  apply before_of_later (by omega) (by omega)
  intro second
  exact before_of_first (by omega) (by omega)

theorem before_four (most : w < 0x110000) :
    Before
      (UInt8.ofNat (v / 262144 % 8 + 240) :: UInt8.ofNat (v / 4096 % 64 + 128) ::
        UInt8.ofNat (v / 64 % 64 + 128) :: UInt8.ofNat (v % 64 + 128) :: bs)
      (UInt8.ofNat (w / 262144 % 8 + 240) :: UInt8.ofNat (w / 4096 % 64 + 128) ::
        UInt8.ofNat (w / 64 % 64 + 128) :: UInt8.ofNat (w % 64 + 128) :: bs') := by
  apply before_of_later (by omega) (by omega)
  intro first
  apply before_of_later (by omega) (by omega)
  intro second
  apply before_of_later (by omega) (by omega)
  intro third
  exact before_of_first (by omega) (by omega)

end

/-- Encodings of the same length are compared byte by byte; a longer one begins with a greater
byte, and belongs to a greater character. -/
theorem before_encoded {c d : Char} (less : c.toNat < d.toNat) (bs bs' : Bytes) :
    Before (String.utf8EncodeChar c ++ bs) (String.utf8EncodeChar d ++ bs') := by
  have scalar : d.val.toNat < 0xD800 ∨ 0xDFFF < d.val.toNat ∧ d.val.toNat < 0x110000 := d.valid
  have less : c.val.toNat < d.val.toNat := less
  rw [String.utf8EncodeChar, String.utf8EncodeChar]
  generalize c.val.toNat = v at less
  generalize d.val.toNat = w at less scalar
  split
  · split
    · exact before_of_first (by omega) less
    · split
      · exact before_of_first (by omega) (by omega)
      · split
        · exact before_of_first (by omega) (by omega)
        · exact before_of_first (by omega) (by omega)
  · rw [if_neg (by omega : ¬w ≤ 127)]
    split
    · split
      · exact before_two less bs bs' (by omega)
      · split
        · exact before_of_first (by omega) (by omega)
        · exact before_of_first (by omega) (by omega)
    · rw [if_neg (by omega : ¬w ≤ 2047)]
      split
      · split
        · exact before_three less bs bs' (by omega)
        · exact before_of_first (by omega) (by omega)
      · rw [if_neg (by omega : ¬w ≤ 65535)]
        exact before_four less bs bs' (by omega)

theorem encodeChar_ne_nil (c : Char) : String.utf8EncodeChar c ≠ [] := by
  rw [String.utf8EncodeChar]
  repeat' split
  all_goals simp

theorem before_encode {a b : String} (less : a < b) : Before (encode a) (encode b) := by
  have ordered : List.Lex (fun c d : Char => c < d) a.toList b.toList := less
  unfold encode
  generalize a.toList = cs at ordered
  generalize b.toList = ds at ordered
  induction ordered with
  | @nil c rest =>
    obtain ⟨first, more, encoded⟩ := List.exists_cons_of_ne_nil (encodeChar_ne_nil c)
    rw [List.flatMap_nil, List.flatMap_cons, encoded]
    exact .nil
  | @cons c cs ds _ ih => exact before_append (String.utf8EncodeChar c) ih
  | rel first => exact before_encoded first _ _

end ClassForge.Text.Utf8
