/-!
Tables over all code points, written as lengths in base sixteen. A tagged table gives each run of
code points a tag; a table of stretches alternates between code points outside and inside.
-/
namespace ClassForge.Unicode

def hexValue (c : Char) : Nat :=
  if c.isDigit then c.toNat - 48 else c.toNat - 87

def readHex (text : String) : Nat := text.toList.foldl (fun n c => n * 16 + hexValue c) 0

/-- A length and a tag; a length of one is not written. -/
private def readCell (cell : String) : Nat × String :=
  let cs := cell.toList
  let length := cs.takeWhile fun c => !c.isUpper
  (if length.isEmpty then 1 else readHex (String.ofList length),
    String.ofList (cs.dropWhile fun c => !c.isUpper))

/-- The runs with the first code point after each in place of its length. -/
def decodeRuns (rows : List String) : List (Nat × String) :=
  ((rows.flatMap (·.splitOn " ")).foldl (fun (acc : Nat × List (Nat × String)) cell =>
    let (length, tag) := readCell cell
    (acc.1 + length, (acc.1 + length, tag) :: acc.2)) (0, [])).2.reverse

def tagAt (runs : List (Nat × String)) (n : Nat) : Option String :=
  (runs.find? fun run => n < run.1).map (·.2)

def decodeStretches (rows : List String) : List Nat :=
  ((rows.flatMap (·.splitOn " ")).foldl (fun (acc : Nat × List Nat) cell =>
    let stop := acc.1 + readHex cell
    (stop, stop :: acc.2)) (0, [])).2.reverse

/-- Whether a code point stands in a stretch inside: an odd number of stretches end before it. -/
def inStretches (ends : List Nat) (n : Nat) : Bool :=
  (ends.takeWhile (· ≤ n)).length % 2 == 1

end ClassForge.Unicode
