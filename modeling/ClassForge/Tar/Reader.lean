import ClassForge.Tar.Block
import ClassForge.Text.Cut

/-!
Reading of archives. Members follow one another, each a header and its data filled up to whole
blocks. A member of a special type may give the member after it a long name or extensions. A block
of zeros, or the end of the input where a header could stand, ends the archive.
-/
namespace ClassForge.Tar

structure Member where
  name : Bytes
  type : UInt8
  data : Bytes
  deriving DecidableEq, Repr

/-- Only members of these types are files. -/
def Member.isFile (m : Member) : Bool := m.type == 0 || m.type == 48

/-- One `key=value` of extensions, in a line that starts with its own length. -/
private def extension? (line : Bytes) : Option (Bytes × Bytes) := do
  let (length, rest) ← Text.cutFirst 32 line
  let n ← (Text.Utf8.decode? length).bind (Number.readUnsigned? 10 (numberLimit - 1))
  if n = line.length + 1 then Text.cutFirst 61 rest else none

private def extensionLines (bs : Bytes) : List Bytes :=
  (Text.pieces 10 bs).takeWhile (!·.isEmpty)

/-- The value of a key; lines that are no extension are passed over. -/
def extensionValue? (key : String) (bs : Bytes) : Option Bytes :=
  (extensionLines bs).findSome? fun line => do
    let (k, v) ← extension? line
    if k == ascii key then some v else none

/-- The number that a key has, unless a line before it is no extension. -/
def extensionNumber? (key : String) (bs : Bytes) : Option Nat :=
  let rec go : List Bytes → Option Nat
    | [] => none
    | line :: rest =>
      match extension? line with
      | none => none
      | some (k, v) =>
        if k == ascii key then
          (Text.Utf8.decode? v).bind (Number.readUnsigned? 10 (numberLimit - 1))
        else go rest
  go (extensionLines bs)

structure Announced where
  longName : Option Bytes := none
  longLink : Option Bytes := none
  extensions : Option Bytes := none

def Announced.isEmpty (a : Announced) : Bool :=
  a.longName.isNone && a.longLink.isNone && a.extensions.isNone

def withoutLastZero (bs : Bytes) : Bytes :=
  if bs.getLast? == some 0 then bs.dropLast else bs

/-- The name of a member: a long name, one from extensions, or that of its header. -/
def memberName (a : Announced) (block : Bytes) : Bytes :=
  match a.longName with
  | some bs => withoutLastZero bs
  | none => (a.extensions.bind (extensionValue? "path")).getD (headerName block)

/-- How far the parts of a sparse file have got: the place in the file, and the bytes of its data
that are left. -/
private structure Sparse where
  place : Nat
  left : Nat

private def addPart (size : Nat) (s : Sparse) (part : Bytes) : Except Fault Sparse := do
  if part.headD 0 == 0 || (part.drop 12).headD 0 == 0 then return s
  let start ← octal (part.take 12)
  let length ← octal ((part.drop 12).take 12)
  if length != 0 && (size - s.left) % blockSize != 0 then .error .sparseBlock
  else if start < s.place || numberLimit ≤ start + length || s.left < length then
    .error .sparseBlock
  else return ⟨start + length, s.left - length⟩

private def addParts (size : Nat) (s : Sparse) (bs : Bytes) : Nat → Except Fault Sparse
  | 0 => .ok s
  | n + 1 => do addParts size (← addPart size s (bs.take 24)) (bs.drop 24) n

/-- Further blocks of parts; each tells whether another follows. -/
private def moreParts (size : Nat) : Nat → Sparse → Bytes → Except Fault (Sparse × Nat)
  | 0, _, _ => .error .shortHeader
  | fuel + 1, s, bs => do
    if lacks blockSize bs then .error .shortHeader
    let s ← addParts size s bs 21
    if (bs.drop 504).headD 0 == 1 then
      let (s, n) ← moreParts size fuel s (bs.drop blockSize)
      return (s, n + 1)
    else return (s, 1)

/-- Checks the parts of a sparse file, and tells how many blocks list more of them. -/
private def checkSparse (block rest : Bytes) (size : Nat) : Except Fault Nat := do
  if !isGnu block then .error .sparseWithoutHeader
  let s ← addParts size ⟨0, size⟩ (block.drop 386) 4
  let (s, blocks) ← if (block.drop 482).headD 0 == 1
    then moreParts size (rest.length + 1) s rest else .ok (s, 0)
  let real ← octal (field block 483 12)
  if s.place != real || s.left != 0 then .error .sparseSize
  return blocks

inductive Piece where
  | announcement (a : Announced)
  | member (m : Member)

def readPiece (a : Announced) (block rest : Bytes) : Except Fault (Piece × Bytes) := do
  let expected ← octal (field block 148 8)
  if sum block != expected % 0x100000000 then .error .checksum
  let stated ← numeric (field block 124 12)
  let size := if stated = 0 then (a.extensions.bind (extensionNumber? "size")).getD 0 else stated
  if numberLimit ≤ size + blockSize then .error .sizeOverflow
  let type := typeByte block
  let recognized := isGnu block || isUstar block
  let extra ← if type == 83 && !(recognized && (type == 76 || type == 75 || type == 120))
    then checkSparse block rest size else .ok 0
  let rest := rest.drop (extra * blockSize)
  if lacks (padded size) rest then .error .shortData
  let data := rest.take size
  let after := rest.drop (padded size)
  if recognized && type == 76 then
    if a.longName.isSome then .error .repeatedLongName
    return (.announcement { a with longName := some data }, after)
  else if recognized && type == 75 then
    if a.longLink.isSome then .error .repeatedLongLink
    return (.announcement { a with longLink := some data }, after)
  else if recognized && type == 120 then
    if a.extensions.isSome then .error .repeatedExtensions
    return (.announcement { a with extensions := some data }, after)
  else return (.member ⟨memberName a block, type, data⟩, after)

/-- The members of an archive; `fuel` bounds the number of headers. -/
def readMembers : Nat → Announced → Bytes → Except Fault (List Member)
  | 0, _, _ => .ok []
  | fuel + 1, a, bs =>
    let finish : Except Fault (List Member) :=
      if a.isEmpty then .ok [] else .error .danglingExtension
    if bs.isEmpty then finish
    else if lacks blockSize bs then .error .shortHeader
    else
      let block := bs.take blockSize
      if isZero block then finish
      else do
        match ← readPiece a block (bs.drop blockSize) with
        | (.announcement a, rest) => readMembers fuel a rest
        | (.member m, rest) => return m :: (← readMembers fuel {} rest)

def members (bs : Bytes) : Except Fault (List Member) := readMembers (bs.length + 1) {} bs

def files (bs : Bytes) : Except Fault (List (String × Bytes)) := do
  let ms ← members bs
  return (ms.filter Member.isFile).map fun m =>
    (String.ofList (Text.Utf8.decodeLossy m.name), m.data)

end ClassForge.Tar
