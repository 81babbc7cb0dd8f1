import ClassForge.Number.Digits
import ClassForge.Text.Blank
import ClassForge.Text.Utf8

/-!
The blocks of an archive: 512 bytes each. A header is one block with fields at fixed places; numbers
in it are octal digits, or, where the first bit is set, bytes from the most significant on.
-/
namespace ClassForge.Tar

inductive Fault where
  | shortHeader
  | shortData
  | number
  | checksum
  | sizeOverflow
  | repeatedLongName
  | repeatedLongLink
  | repeatedExtensions
  | danglingExtension
  | sparseWithoutHeader
  | sparseBlock
  | sparseSize
  | system (text : String)
  | absoluteName
  | parentInName
  | emptyName
  | nameTooLong
  | nulInName
  deriving DecidableEq, Repr

def Fault.message : Fault → String
  | .shortHeader => "failed to read entire block"
  | .shortData => "unexpected EOF during skip"
  | .number => "numeric field was not a number"
  | .checksum => "archive header checksum mismatch"
  | .sizeOverflow => "size overflow"
  | .repeatedLongName => "two long name entries describing the same member"
  | .repeatedLongLink => "two long link entries describing the same member"
  | .repeatedExtensions => "two pax extensions entries describing the same member"
  | .danglingExtension => "members found describing a future member but no future member found"
  | .sparseWithoutHeader => "sparse entry type listed but not GNU header"
  | .sparseBlock => "out of order or overlapping sparse blocks"
  | .sparseSize => "mismatch in sparse file chunks and size in header"
  | .system text => text
  | .absoluteName => "paths in archives must be relative"
  | .parentInName => "paths in archives must not have \x60..\x60"
  | .emptyName => "paths in archives must have at least one component"
  | .nameTooLong => "provided value is too long"
  | .nulInName => "provided value contains a nul byte"

def blockSize : Nat := 512

/-- The least multiple of the block size that is not less. -/
def padded (size : Nat) : Nat := (size + 511) / 512 * 512

/-- Zeros after `size` bytes up to the end of the block. -/
def padding (size : Nat) : Bytes := List.replicate (padded size - size) 0

def lacks (size : Nat) (bs : Bytes) : Bool := 0 < size && (bs.drop (size - 1)).isEmpty

theorem lacks_iff (size : Nat) (bs : Bytes) : lacks size bs = true ↔ bs.length < size := by
  simp [lacks]; omega

theorem lacks_append {bs : Bytes} {size : Nat} (fills : bs.length = size) (more : Bytes) :
    lacks size (bs ++ more) = false := by
  rw [Bool.eq_false_iff]
  intro short
  rw [lacks_iff, List.length_append] at short
  omega

def field (block : Bytes) (start length : Nat) : Bytes := (block.drop start).take length

def truncated (bs : Bytes) : Bytes := bs.takeWhile (· != 0)

def numberLimit : Nat := 0x10000000000000000

def octal? (bs : Bytes) : Option Nat := do
  let cs ← Text.Utf8.decode? (truncated bs)
  Number.readUnsigned? 8 (numberLimit - 1) (Text.trim cs)

def octal (bs : Bytes) : Except Fault Nat :=
  match octal? bs with
  | some n => .ok n
  | none => .error .number

/-- The last eight bytes as one number. -/
def extended (bs : Bytes) : Nat :=
  (bs.drop (bs.length - 8)).foldl (fun n b => n * 256 + b.toNat) 0

def numeric (bs : Bytes) : Except Fault Nat :=
  match bs with
  | b :: _ => if 128 ≤ b.toNat then .ok (extended bs) else octal bs
  | [] => .error .number

/-- The sum of a header's bytes, with blanks in place of the checksum. -/
def sum (block : Bytes) : Nat :=
  (block.take 148 ++ block.drop 156).foldl (fun n b => n + b.toNat) (8 * 32)

def isZero (block : Bytes) : Bool := block.all (· == 0)

def ascii (text : String) : Bytes := Text.Utf8.encode text

def isGnu (block : Bytes) : Bool := field block 257 8 == ascii "ustar  " ++ [0]

def isUstar (block : Bytes) : Bool := field block 257 8 == ascii "ustar" ++ [0] ++ ascii "00"

def typeByte (block : Bytes) : UInt8 := (block.drop 156).headD 0

/-- The name that a header gives. A header of the newer kind may give the name's first part
elsewhere. -/
def headerName (block : Bytes) : Bytes :=
  let name := truncated (field block 0 100)
  let start := truncated (field block 345 155)
  if isUstar block && !start.isEmpty then start ++ 47 :: name else name

end ClassForge.Tar
