/-!
UTF-8. Texts become bytes by `encode`; bytes become a text by `decode?`, which refuses anything
that is not UTF-8, or by `decodeLossy`, which puts U+FFFD in place of every longest beginning of a
character that is not continued as it should be.
-/
namespace ClassForge

abbrev Bytes := List UInt8

namespace Text.Utf8

def encode (s : String) : Bytes := s.toList.flatMap String.utf8EncodeChar

def size (cs : List Char) : Nat := cs.foldr (fun c n => c.utf8Size + n) 0

/-- The first character of a byte string, or how many bytes of it cannot be read. -/
inductive Head where
  | char (c : Char) (rest : Bytes)
  | broken (rest : Bytes)

def isTail (b : UInt8) : Bool := 0x80 ≤ b && b ≤ 0xBF

def bits (b : UInt8) (mask : Nat) : Nat := b.toNat % mask

/-- The second byte of a character is limited by the first. -/
def secondOk (first second : UInt8) : Bool :=
  if first == 0xE0 then 0xA0 ≤ second && second ≤ 0xBF
  else if first == 0xED then 0x80 ≤ second && second ≤ 0x9F
  else if first == 0xF0 then 0x90 ≤ second && second ≤ 0xBF
  else if first == 0xF4 then 0x80 ≤ second && second ≤ 0x8F
  else isTail second

def head (b : UInt8) (rest : Bytes) : Head :=
  if b < 0x80 then .char (Char.ofNat b.toNat) rest
  else if 0xC2 ≤ b && b ≤ 0xDF then
    match rest with
    | b₁ :: r =>
      if isTail b₁ then .char (Char.ofNat (bits b 32 * 64 + bits b₁ 64)) r else .broken rest
    | [] => .broken []
  else if 0xE0 ≤ b && b ≤ 0xEF then
    match rest with
    | b₁ :: r₁ =>
      if !secondOk b b₁ then .broken rest
      else match r₁ with
        | b₂ :: r₂ =>
          if isTail b₂ then
            .char (Char.ofNat ((bits b 16 * 64 + bits b₁ 64) * 64 + bits b₂ 64)) r₂
          else .broken r₁
        | [] => .broken []
    | [] => .broken []
  else if 0xF0 ≤ b && b ≤ 0xF4 then
    match rest with
    | b₁ :: r₁ =>
      if !secondOk b b₁ then .broken rest
      else match r₁ with
        | b₂ :: r₂ =>
          if !isTail b₂ then .broken r₁
          else match r₂ with
            | b₃ :: r₃ =>
              if isTail b₃ then
                .char (Char.ofNat
                  (((bits b 8 * 64 + bits b₁ 64) * 64 + bits b₂ 64) * 64 + bits b₃ 64)) r₃
              else .broken r₂
            | [] => .broken []
        | [] => .broken []
    | [] => .broken []
  else .broken rest

def Head.rest : Head → Bytes
  | .char _ r => r
  | .broken r => r

theorem head_rest_length (b : UInt8) (rest : Bytes) : (head b rest).rest.length ≤ rest.length := by
  unfold head
  repeat' split
  all_goals simp_all [Head.rest]
  all_goals omega

def decodeLossy : Bytes → List Char
  | [] => []
  | b :: rest =>
    match _h : head b rest with
    | .char c r => c :: decodeLossy r
    | .broken r => '\uFFFD' :: decodeLossy r
termination_by bs => bs.length
decreasing_by
  all_goals
    have := head_rest_length b rest
    simp only [_h, Head.rest, List.length_cons] at *
    omega

def decode? : Bytes → Option (List Char)
  | [] => some []
  | b :: rest =>
    match _h : head b rest with
    | .char c r => (decode? r).map (c :: ·)
    | .broken _ => none
termination_by bs => bs.length
decreasing_by
  have := head_rest_length b rest
  simp only [_h, Head.rest, List.length_cons] at *
  omega

end Text.Utf8
end ClassForge
