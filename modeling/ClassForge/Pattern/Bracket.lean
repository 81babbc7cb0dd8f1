import ClassForge.Pattern.Escape

/-!
Character classes in brackets. Items stand side by side for their union; `&&`, `--` and `~~`
between them take what is on both sides, on the left alone, or on one side alone, from the left to
the right. A part carries how deeply it is nested, because that is limited.
-/
namespace ClassForge.Pattern

structure Member where
  set : CharSet
  depth : Nat

inductive SetOp where
  | inter
  | diff
  | symmDiff

def SetOp.apply : SetOp → CharSet → CharSet → CharSet
  | .inter, a, b => .inter a b
  | .diff, a, b => a.diff b
  | .symmDiff, a, b => a.symmDiff b

private def unionOf : List Member → Member
  | [] => ⟨.none, 0⟩
  | [m] => m
  | ms => ⟨.unions (ms.map (·.set)), (ms.map (·.depth)).foldl max 0 + 1⟩

private def foldSide (flags : Flags) (s : CharSet) : CharSet :=
  if !flags.ignoreCase then s else if flags.unicode then .folded s else .latinFolded s

private def combine (flags : Flags) : Option (SetOp × Member) → Member → Member
  | none, m => m
  | some (op, left), m =>
    ⟨op.apply (foldSide flags left.set) (foldSide flags m.set), max left.depth m.depth + 1⟩

private def asciiSet? (name : String) : Option CharSet :=
  match name with
  | "alnum" => some (.ofRanges [('0', '9'), ('A', 'Z'), ('a', 'z')])
  | "alpha" => some (.ofRanges [('A', 'Z'), ('a', 'z')])
  | "ascii" => some (.range (Char.ofNat 0) (Char.ofNat 127))
  | "blank" => some (.ofChars ['\t', ' '])
  | "cntrl" => some (.ofRanges [(Char.ofNat 0, Char.ofNat 31), (Char.ofNat 127, Char.ofNat 127)])
  | "digit" => some (.range '0' '9')
  | "graph" => some (.range '!' '~')
  | "lower" => some (.range 'a' 'z')
  | "print" => some (.range ' ' '~')
  | "punct" => some (.ofRanges [('!', '/'), (':', '@'), ('[', '\x60'), ('\x7b', '~')])
  | "space" => some (.ofRanges [('\t', '\r'), (' ', ' ')])
  | "upper" => some (.range 'A' 'Z')
  | "word" => some (.ofRanges [('0', '9'), ('A', 'Z'), ('_', '_'), ('a', 'z')])
  | "xdigit" => some (.ofRanges [('0', '9'), ('A', 'F'), ('a', 'f')])
  | _ => none

/-- A class such as `[:alpha:]` or `[:^alpha:]`, after its first bracket. -/
private def readAscii? (cs : List Char) : Option (CharSet × Bool × List Char) := do
  let ':' :: cs := cs | none
  let (negated, cs) := match cs with
    | '^' :: r => (true, r)
    | _ => (false, cs)
  let name := cs.takeWhile (· != ':')
  let ':' :: ']' :: left := cs.dropWhile (· != ':') | none
  let set ← asciiSet? (String.ofList name)
  return (set, negated, left)

private def readItem (r : Reader) : Except Fault (Atom × Reader) :=
  match r.rest with
  | [] => .error .classNotClosed
  | '\\' :: cs => readEscape (r.jump cs)
  | c :: cs => .ok (.char c false, r.jump cs)

private def charOf (flags : Flags) : Atom → Except Fault Char
  | .char c _ => if flags.unicode || c.toNat < 128 then .ok c else .error .needsUnicode
  | _ => .error .classRange

private def setOf (flags : Flags) : Atom → Except Fault CharSet
  | .char c b => (charOf flags (.char c b)).map CharSet.single
  | .set s => .ok s
  | .look _ => .error .classMember

private def readRange (r : Reader) : Except Fault (CharSet × Reader) := do
  let (first, r) ← readItem r
  let r := r.skip
  match r.rest with
  | [] => .error .classNotClosed
  | '-' :: cs =>
    match r.skipped cs with
    | ']' :: _ | '-' :: _ => return (← setOf r.flags first, r)
    | [] => .error .classNotClosed
    | left =>
      let (last, r) ← readItem (r.jump left)
      let a ← charOf r.flags first
      let b ← charOf r.flags last
      if a ≤ b then return (.range a b, r) else .error .classRange
  | _ => return (← setOf r.flags first, r)

private def leadingHyphens (r : Reader) : Nat → List Char → List Member × List Char
  | 0, cs => ([], cs)
  | fuel + 1, '-' :: cs =>
    let (ms, left) := leadingHyphens r fuel (r.skipped cs)
    (⟨.single '-', 0⟩ :: ms, left)
  | _, cs => ([], cs)

/-- What follows an opening bracket: whether the class is negated, and hyphens or a closing bracket
that stand for themselves. -/
private def openBracket (r : Reader) : Except Fault ((Bool × List Member) × Reader) :=
  let cs := r.skipped r.rest
  let (negated, cs) := match cs with
    | '^' :: rest => (true, r.skipped rest)
    | _ => (false, cs)
  let (hyphens, cs) := leadingHyphens r (cs.length + 1) cs
  match hyphens, cs with
  | _, [] => .error .classNotClosed
  | [], ']' :: rest =>
    match r.skipped rest with
    | [] => .error .classNotClosed
    | left => .ok ((negated, [⟨.single ']', 0⟩]), r.jump left)
  | _, _ => .ok ((negated, hyphens), r.jump cs)

/-- The rest of a class, up to and with its closing bracket. -/
private def readBody :
    Nat → Option (SetOp × Member) → List Member → Reader → Except Fault (Member × Reader)
  | 0, _, _, _ => .error .classNotClosed
  | fuel + 1, pending, members, r => do
    let r := r.skip
    let operator (op : SetOp) (left : List Char) : Except Fault (Member × Reader) :=
      readBody fuel (some (op, combine r.flags pending (unionOf members))) [] (r.jump left)
    match r.rest with
    | [] => .error .classNotClosed
    | '[' :: cs =>
      match readAscii? cs with
      | some (set, negated, left) =>
        let closed ← closeSet r.flags negated set
        readBody fuel pending (members ++ [⟨closed, 0⟩]) (r.jump left)
      | none =>
        let ((negated, first), inner) ← openBracket (r.jump cs)
        let (m, left) ← readBody fuel none first inner
        let closed ← closeSet r.flags negated m.set
        readBody fuel pending (members ++ [⟨closed, m.depth + 1⟩]) left
    | ']' :: cs => return (combine r.flags pending (unionOf members), r.jump cs)
    | '&' :: '&' :: cs => operator .inter cs
    | '-' :: '-' :: cs => operator .diff cs
    | '~' :: '~' :: cs => operator .symmDiff cs
    | _ =>
      let (set, left) ← readRange r
      readBody fuel pending (members ++ [⟨set, 0⟩]) left

def readClass (r : Reader) : Except Fault (Member × Reader) := do
  let ((negated, first), inner) ← openBracket r
  let (m, left) ← readBody (r.rest.length + 1) none first inner
  let closed ← closeSet r.flags negated m.set
  return (⟨closed, m.depth + 1⟩, left)

end ClassForge.Pattern
