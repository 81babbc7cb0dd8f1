import ClassForge.Tar.Block
import ClassForge.Text.Cut

/-!
Writing of archives. A name is stored without its `.` parts and without repeated slashes; it has to
be relative and may not lead upwards. A name that does not fit into a header is written before it,
as the data of a member of its own.
-/
namespace ClassForge.Tar

inductive Part where
  | root
  | current
  | parent
  | name (bytes : Bytes)
  deriving DecidableEq, Repr

def Part.bytes : Part → Bytes
  | .root => [47]
  | .current => [46]
  | .parent => [46, 46]
  | .name bs => bs

/-- The parts of a path. A `.` counts only at the start of a relative path. -/
def parts (path : Bytes) : List Part :=
  let pieces := (Text.pieces 47 path).filter (!·.isEmpty)
  let start := if path.head? == some 47 then [Part.root]
    else if pieces.head? == some [46] then [Part.current] else []
  start ++ (pieces.filter (· != [46])).map fun p => if p == [46, 46] then .parent else .name p

/-- The place of a name in a header, and how much of it is filled. -/
structure Slot where
  bytes : Bytes
  filled : Nat

def nameLength : Nat := 100

namespace Slot

def empty : Slot := ⟨List.replicate nameLength 0, 0⟩

/-- Puts bytes at the end of what is filled, and a zero after them if there is room. -/
def push (s : Slot) (bs : Bytes) : Except (Fault × Slot) Slot :=
  if nameLength < s.filled + bs.length then .error (.nameTooLong, s)
  else if bs.contains 0 then .error (.nulInName, s)
  else
    let upTo := s.bytes.take s.filled ++ bs
    let zero := if upTo.length < nameLength then [0] else []
    .ok ⟨upTo ++ zero ++ s.bytes.drop (upTo.length + zero.length), upTo.length⟩

end Slot

/-- Puts the parts of a name one after the other; in a name that was cut off, the last part may lead
upwards. What was put before a fault stays. -/
def pushParts (cut alone : Bool) : List Part → Bool → Slot → Except (Fault × Slot) Slot
  | [], _, s => .ok s
  | p :: ps, slash, s =>
    let put (ready : Bool) : Except (Fault × Slot) Slot := do
      let s ← if slash && ready then s.push [47] else .ok s
      pushParts cut alone ps true (← s.push p.bytes)
    match p with
    | .root => .error (.absoluteName, s)
    | .parent => if cut && ps.isEmpty then put true else .error (.parentInName, s)
    | .current => if alone then put true else pushParts cut alone ps slash s
    | .name _ => put true

def putName (cut : Bool) (path : Bytes) (s : Slot) : Except (Fault × Slot) Slot := do
  let ps := parts path
  let s ← pushParts cut (ps.length == 1) ps false ⟨s.bytes, 0⟩
  if ps.isEmpty then .error (.emptyName, s)
  else if path.getLast? == some 47 then s.push [47]
  else return s

/-- A number as `length` octal digits and a zero. -/
def octalField (length n : Nat) : Bytes :=
  let ds := ascii (String.ofList (Number.render 8 n))
  List.replicate (length - ds.length) 48 ++ ds ++ [0]

def octalLimit : Nat := 0x200000000

/-- A size, which is written in bytes when it has too many digits. -/
def sizeField (n : Nat) : Bytes :=
  if n < octalLimit then octalField 11 n
  else 128 :: (List.range 11).map fun i => UInt8.ofNat (n >>> (8 * (10 - i)))

def withChecksum (block : Bytes) : Bytes :=
  block.take 148 ++ octalField 7 (sum block) ++ block.drop 156

/-- A header. Owner and group are written only for a member that carries a long name. -/
def header (name : Bytes) (owner : Bytes) (size : Nat) (type : UInt8) : Bytes :=
  withChecksum (name ++ octalField 7 0o644 ++ owner ++ owner ++ sizeField size ++ octalField 11 0 ++
    List.replicate 8 0 ++ [type] ++ List.replicate 100 0 ++ ascii "ustar  " ++
    List.replicate 248 0)

def blocks (head data : Bytes) : Bytes := head ++ data ++ padding data.length

def fileHeader (name : Bytes) (size : Nat) : Bytes := header name (List.replicate 8 0) size 0

def longNameMember (path : Bytes) : Bytes :=
  let name := ascii "././@LongLink"
  blocks (header (name ++ List.replicate (nameLength - name.length) 0) (octalField 7 0)
    (path.length + 1) 76) (path ++ [0])

/-- As many of the first bytes as make whole characters. -/
def wholeChars (bs : Bytes) : Bytes :=
  ((List.range 4).findSome? fun n =>
    let part := bs.take (bs.length - n)
    if (Text.Utf8.decode? part).isSome then some part else none).getD bs

def fileMember (path data : Bytes) : Bytes × Option Fault :=
  match putName false path .empty with
  | .ok s => (blocks (fileHeader s.bytes data.length) data, none)
  | .error (fault, s) =>
    if path.length < nameLength then ([], some fault)
    else match putName true (wholeChars (path.take nameLength)) s with
      | .ok s => (longNameMember path ++ blocks (fileHeader s.bytes data.length) data, none)
      | .error (fault, _) => (longNameMember path, some fault)

/-- What was written, and the name of the member that could not be. -/
structure Written where
  bytes : Bytes
  fault : Option (String × Fault)

def ending : Bytes := List.replicate (2 * blockSize) 0

/-- An archive of files. It is ended also after a fault. -/
def write : List (String × Bytes) → Written
  | [] => ⟨ending, none⟩
  | (name, data) :: rest =>
    match fileMember (Text.Utf8.encode name) data with
    | (bs, some fault) => ⟨bs ++ ending, some (name, fault)⟩
    | (bs, none) =>
      let more := write rest
      { more with bytes := bs ++ more.bytes }

end ClassForge.Tar
