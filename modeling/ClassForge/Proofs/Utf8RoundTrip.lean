import ClassForge.Text.Utf8

/-!
Decoding undoes encoding: the bytes of a character are read as that character, whatever follows
them, and so the bytes of a text as the text, strictly and lossily.
-/
namespace ClassForge.Text.Utf8

theorem toNat_byte {n : Nat} (small : n < 256) : (UInt8.ofNat n).toNat = n := by
  rw [UInt8.toNat_ofNat']
  omega

theorem isTail_tail (n : Nat) : isTail (UInt8.ofNat (n % 64 + 128)) = true := by
  have whole : (UInt8.ofNat (n % 64 + 128)).toNat = n % 64 + 128 := toNat_byte (by omega)
  rw [isTail, Bool.and_eq_true, decide_eq_true_eq, decide_eq_true_eq, UInt8.le_iff_toNat_le,
    UInt8.le_iff_toNat_le, whole]
  simp
  omega

theorem bits_tail (n : Nat) : bits (UInt8.ofNat (n % 64 + 128)) 64 = n % 64 := by
  rw [bits, toNat_byte (by omega)]
  omega

theorem head_one {v : Nat} (most : v < 128) (more : Bytes) :
    head (UInt8.ofNat v) more = .char (Char.ofNat v) more := by
  have first : (UInt8.ofNat v).toNat = v := toNat_byte (by omega)
  have leads : UInt8.ofNat v < 0x80 := by
    rw [UInt8.lt_iff_toNat_lt, first]
    exact most
  simp only [head, leads, first, ↓reduceIte]

theorem head_two {v : Nat} (least : 128 ≤ v) (most : v < 2048) (more : Bytes) :
    head (UInt8.ofNat (v / 64 % 32 + 192)) (UInt8.ofNat (v % 64 + 128) :: more) =
      .char (Char.ofNat v) more := by
  have first : (UInt8.ofNat (v / 64 % 32 + 192)).toNat = v / 64 % 32 + 192 := toNat_byte (by omega)
  have whole : bits (UInt8.ofNat (v / 64 % 32 + 192)) 32 * 64 + v % 64 = v := by
    rw [bits, first]
    omega
  have leads : (UInt8.ofNat (v / 64 % 32 + 192) < 0x80) = False ∧
      (0xC2 ≤ UInt8.ofNat (v / 64 % 32 + 192)) = True ∧
      (UInt8.ofNat (v / 64 % 32 + 192) ≤ 0xDF) = True := by
    simp [UInt8.lt_iff_toNat_lt, UInt8.le_iff_toNat_le]
    omega
  simp only [head, leads, isTail_tail, bits_tail, whole, decide_true, Bool.and_self, ↓reduceIte]

theorem secondOk_of_bounds {first second : UInt8}
    (tail : 0x80 ≤ second.toNat ∧ second.toNat ≤ 0xBF)
    (least : first.toNat = 0xE0 → 0xA0 ≤ second.toNat)
    (scalar : first.toNat = 0xED → second.toNat ≤ 0x9F)
    (beyond : first.toNat = 0xF0 → 0x90 ≤ second.toNat)
    (most : first.toNat = 0xF4 → second.toNat ≤ 0x8F) : secondOk first second = true := by
  have is : ∀ b : UInt8, first == b ↔ first.toNat = b.toNat := by
    intro b
    rw [beq_iff_eq, UInt8.toNat_inj]
  have atLeast : ∀ b : UInt8, decide (b ≤ second) = decide (b.toNat ≤ second.toNat) := fun b => rfl
  have atMost : ∀ b : UInt8, decide (second ≤ b) = decide (second.toNat ≤ b.toNat) := fun b => rfl
  simp only [secondOk, isTail, is, atLeast, atMost]
  repeat' split
  all_goals simp_all

theorem head_three {v : Nat} (least : 2048 ≤ v) (most : v < 65536)
    (scalar : v < 0xD800 ∨ 0xDFFF < v) (more : Bytes) :
    head (UInt8.ofNat (v / 4096 % 16 + 224)) (UInt8.ofNat (v / 64 % 64 + 128) ::
      UInt8.ofNat (v % 64 + 128) :: more) = .char (Char.ofNat v) more := by
  have first : (UInt8.ofNat (v / 4096 % 16 + 224)).toNat = v / 4096 % 16 + 224 :=
    toNat_byte (by omega)
  have second : (UInt8.ofNat (v / 64 % 64 + 128)).toNat = v / 64 % 64 + 128 :=
    toNat_byte (by omega)
  have ok : secondOk (UInt8.ofNat (v / 4096 % 16 + 224)) (UInt8.ofNat (v / 64 % 64 + 128)) =
      true := by
    apply secondOk_of_bounds <;> omega
  have whole : (bits (UInt8.ofNat (v / 4096 % 16 + 224)) 16 * 64 + v / 64 % 64) * 64 + v % 64 =
      v := by
    rw [bits, first]
    omega
  have leads : (UInt8.ofNat (v / 4096 % 16 + 224) < 0x80) = False ∧
      (UInt8.ofNat (v / 4096 % 16 + 224) ≤ 0xDF) = False ∧
      (0xE0 ≤ UInt8.ofNat (v / 4096 % 16 + 224)) = True ∧
      (UInt8.ofNat (v / 4096 % 16 + 224) ≤ 0xEF) = True := by
    simp [UInt8.lt_iff_toNat_lt, UInt8.le_iff_toNat_le]
    omega
  simp only [head, leads, ok, isTail_tail, bits_tail, whole, decide_true, decide_false,
    Bool.and_self, Bool.and_false, Bool.not_true, Bool.false_eq_true, ↓reduceIte]

theorem head_four {v : Nat} (least : 65536 ≤ v) (most : v < 0x110000) (more : Bytes) :
    head (UInt8.ofNat (v / 262144 % 8 + 240)) (UInt8.ofNat (v / 4096 % 64 + 128) ::
      UInt8.ofNat (v / 64 % 64 + 128) :: UInt8.ofNat (v % 64 + 128) :: more) =
        .char (Char.ofNat v) more := by
  have first : (UInt8.ofNat (v / 262144 % 8 + 240)).toNat = v / 262144 % 8 + 240 :=
    toNat_byte (by omega)
  have second : (UInt8.ofNat (v / 4096 % 64 + 128)).toNat = v / 4096 % 64 + 128 :=
    toNat_byte (by omega)
  have ok : secondOk (UInt8.ofNat (v / 262144 % 8 + 240)) (UInt8.ofNat (v / 4096 % 64 + 128)) =
      true := by
    apply secondOk_of_bounds <;> omega
  have whole : ((bits (UInt8.ofNat (v / 262144 % 8 + 240)) 8 * 64 + v / 4096 % 64) * 64 +
      v / 64 % 64) * 64 + v % 64 = v := by
    rw [bits, first]
    omega
  have leads : (UInt8.ofNat (v / 262144 % 8 + 240) < 0x80) = False ∧
      (UInt8.ofNat (v / 262144 % 8 + 240) ≤ 0xDF) = False ∧
      (UInt8.ofNat (v / 262144 % 8 + 240) ≤ 0xEF) = False ∧
      (0xF0 ≤ UInt8.ofNat (v / 262144 % 8 + 240)) = True ∧
      (UInt8.ofNat (v / 262144 % 8 + 240) ≤ 0xF4) = True := by
    simp [UInt8.lt_iff_toNat_lt, UInt8.le_iff_toNat_le]
    omega
  simp only [head, leads, ok, isTail_tail, bits_tail, whole, decide_true, decide_false,
    Bool.and_self, Bool.and_false, Bool.not_true, Bool.false_eq_true, ↓reduceIte]

theorem head_encoded (c : Char) (more : Bytes) :
    ∃ b rest, String.utf8EncodeChar c ++ more = b :: rest ∧ head b rest = .char c more := by
  have scalar : c.val.toNat < 0xD800 ∨ 0xDFFF < c.val.toNat ∧ c.val.toNat < 0x110000 := c.valid
  have same : Char.ofNat c.val.toNat = c := Char.ofNat_toNat c
  rw [String.utf8EncodeChar]
  generalize c.val.toNat = v at scalar same
  subst same
  split
  · exact ⟨_, _, rfl, head_one (by omega) more⟩
  · split
    · exact ⟨_, _, rfl, head_two (by omega) (by omega) more⟩
    · split
      · exact ⟨_, _, rfl, head_three (by omega) (by omega) (by omega) more⟩
      · exact ⟨_, _, rfl, head_four (by omega) (by omega) more⟩

theorem decodeLossy_encoded (cs : List Char) :
    decodeLossy (cs.flatMap String.utf8EncodeChar) = cs := by
  induction cs with
  | nil => simp [decodeLossy]
  | cons c cs ih =>
    obtain ⟨b, rest, split, read⟩ := head_encoded c (cs.flatMap String.utf8EncodeChar)
    rw [List.flatMap_cons, split, decodeLossy]
    split
    · simp_all
    · simp_all

theorem decode?_encoded (cs : List Char) :
    decode? (cs.flatMap String.utf8EncodeChar) = some cs := by
  induction cs with
  | nil => simp [decode?]
  | cons c cs ih =>
    obtain ⟨b, rest, split, read⟩ := head_encoded c (cs.flatMap String.utf8EncodeChar)
    rw [List.flatMap_cons, split, decode?]
    split
    · simp_all
    · simp_all

theorem ascii_of_mem {c : Char} {b : UInt8} (member : b ∈ String.utf8EncodeChar c)
    (low : b.toNat < 128) : c.toNat = b.toNat := by
  have high : ∀ n, 128 ≤ n → n < 256 → b ≠ UInt8.ofNat n := by
    rintro n least most rfl
    rw [toNat_byte most] at low
    omega
  have tail : ∀ n, b ≠ UInt8.ofNat (n % 64 + 128) := fun n => high _ (by omega) (by omega)
  rw [String.utf8EncodeChar] at member
  split at member
  · rename_i single
    rw [List.mem_singleton.mp member, toNat_byte (by omega)]
    rfl
  · split at member
    · simp only [List.mem_cons, tail, List.not_mem_nil, or_false] at member
      exact absurd member (high _ (by omega) (by omega))
    · split at member
      · simp only [List.mem_cons, tail, List.not_mem_nil, or_false] at member
        exact absurd member (high _ (by omega) (by omega))
      · simp only [List.mem_cons, tail, List.not_mem_nil, or_false] at member
        exact absurd member (high _ (by omega) (by omega))

theorem decodeLossy_encode (s : String) : decodeLossy (encode s) = s.toList :=
  decodeLossy_encoded s.toList

end ClassForge.Text.Utf8
