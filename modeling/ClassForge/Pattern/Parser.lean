import ClassForge.Pattern.Bracket

/-!
From the text of a pattern to its tree. The parts of a branch are read one after the other; a
repetition applies to the part before it; a group holds branches, and flags set inside it end with
it.
-/
namespace ClassForge.Pattern

/-- A pattern is refused when it is nested more deeply, or needs more bytes. -/
def depthLimit : Nat := 250

def weightLimit : Nat := 10 * 1024 * 1024

structure Part where
  tree : Tree
  depth : Nat
  /-- Flags on their own stand for nothing that could be repeated. -/
  onlyFlags : Bool := false

private def flagsPart : Part := ⟨.empty, 0, true⟩

private def depthOf (ps : List Part) : Nat := (ps.map (·.depth)).foldl max 0 + 1

private def sequenceOf : List Part → Part
  | [] => ⟨.empty, 0, false⟩
  | [p] => { p with onlyFlags := false }
  | ps => ⟨(ps.map (·.tree)).foldr .both .empty, depthOf ps, false⟩

private def choiceOf : List Part → Part
  | [] => ⟨.empty, 0, false⟩
  | [p] => p
  | p :: ps => ⟨(ps.map (·.tree)).foldl .either p.tree, depthOf (p :: ps), false⟩

private def charTree (flags : Flags) (c : Char) (byte : Bool) : Except Fault Tree :=
  if !flags.unicode && byte && 127 < c.toNat then .error .needsUnicode
  else if !flags.ignoreCase then .ok (.one (.single c))
  else if flags.unicode then .ok (.one (.folded (.single c)))
  else .ok (.one (.latinFolded (.single c)))

private def dotTree (flags : Flags) : Except Fault Tree :=
  if !flags.unicode then .error .needsUnicode
  else if flags.dotMatchesAll then .ok (.one (.property .any))
  else if flags.anyLineEnd then .ok (.one (.compl (.ofChars ['\n', '\r'])))
  else .ok (.one (.compl (.single '\n')))

private def startLook (flags : Flags) : Look :=
  if !flags.multiLine then .textStart else if flags.anyLineEnd then .anyLineStart else .lineStart

private def endLook (flags : Flags) : Look :=
  if !flags.multiLine then .textEnd else if flags.anyLineEnd then .anyLineEnd else .lineEnd

private def readPrimitive (r : Reader) : Except Fault (Tree × Reader) :=
  match r.rest with
  | [] => .error .unexpectedEnd
  | '\\' :: cs => do
    let (atom, left) ← readEscape (r.jump cs)
    match atom with
    | .char c byte => return (← charTree r.flags c byte, left)
    | .set s => return (.one s, left)
    | .look l => return (.look l, left)
  | '.' :: cs => do return (← dotTree r.flags, r.jump cs)
  | '^' :: cs => .ok (.look (startLook r.flags), r.jump cs)
  | '$' :: cs => .ok (.look (endLook r.flags), r.jump cs)
  | c :: cs => do return (← charTree r.flags c false, r.jump cs)

private def Flags.set? (flags : Flags) (value : Bool) : Char → Option Flags
  | 'i' => some { flags with ignoreCase := value }
  | 'm' => some { flags with multiLine := value }
  | 's' => some { flags with dotMatchesAll := value }
  | 'R' => some { flags with anyLineEnd := value }
  | 'x' => some { flags with spaced := value }
  | 'u' => some { flags with unicode := value }
  | 'U' => some flags
  | _ => none

/-- Letters of flags, each at most once, with at most one hyphen before those that are switched
off; the last character read is the one that ends them. -/
private def readFlags (value : Bool) (seen : List Char) (flags : Flags) :
    List Char → Except Fault (Flags × List Char × Char × List Char)
  | [] => .error .unexpectedEnd
  | c :: cs =>
    if c == ':' || c == ')' then
      if seen.head? == some '-' then .error .flags else .ok (flags, seen, c, cs)
    else if seen.contains c then .error .flags
    else if c == '-' then readFlags false (c :: seen) flags cs
    else match flags.set? value c with
      | some flags' => readFlags value (c :: seen) flags' cs
      | none => .error .flags

private def isNameStart (c : Char) : Bool := c == '_' || Unicode.Property.isAlphabetic c

private def isNameChar (c : Char) : Bool :=
  isNameStart c || c == '.' || c == '[' || c == ']' ||
    "N".isPrefixOf (Unicode.Category.ofChar c)

private def readName (r : Reader) (cs : List Char) : Except Fault Reader :=
  let name := cs.takeWhile (· != '>')
  match name, cs.dropWhile (· != '>') with
  | c :: rest, _ :: left =>
    if !isNameStart c || !rest.all isNameChar then .error .groupName
    else
      let text := String.ofList name
      if r.names.contains text then .error (.groupNameRepeated text)
      else .ok { r with rest := left, names := text :: r.names }
  | _, _ => .error .groupName

private inductive Opening where
  | setFlags (after : Reader)
  | group (inner : Reader)

private def readOpening (r : Reader) : Except Fault Opening :=
  match r.skipped r.rest with
  | '?' :: '=' :: _ | '?' :: '!' :: _ | '?' :: '<' :: '=' :: _ | '?' :: '<' :: '!' :: _ =>
    .error .lookAround
  | '?' :: 'P' :: '<' :: cs => (readName r cs).map .group
  | '?' :: '<' :: cs => (readName r cs).map .group
  | '?' :: cs => do
    let (flags, seen, last, left) ← readFlags true [] r.flags cs
    let after : Reader := { r with flags, rest := left }
    if last == ':' then return .group after
    else if seen.isEmpty then .error .nothingToRepeat
    else return .setFlags after
  | cs => .ok (.group (r.jump cs))

/-- The digits of a count, with blanks around and, where the flags say so, between them. -/
private def readCount (r : Reader) : Except Fault (Option Nat × Reader) :=
  let start := r.rest.dropWhile Text.isBlank
  let rec digits : Nat → List Char → List Char × List Char
    | 0, cs => ([], cs)
    | fuel + 1, cs =>
      match cs with
      | c :: rest =>
        if c.isDigit then
          let (ds, left) := digits fuel (r.skipped rest)
          (c :: ds, left)
        else ([], cs)
      | [] => ([], [])
  let (ds, left) := digits (start.length + 1) start
  let after := r.jump (r.skipped (left.dropWhile Text.isBlank))
  if ds.isEmpty then .ok (none, after)
  else match Number.readUnsigned? 10 0xFFFFFFFF ds with
    | some n => .ok (some n, after)
    | none => .error .repetition

private def readCounts (r : Reader) : Except Fault ((Nat × Option Nat) × Reader) := do
  let r := r.skip
  let (least, r) ← readCount r
  let finish (counts : Nat × Option Nat) (r : Reader) :
      Except Fault ((Nat × Option Nat) × Reader) :=
    match r.rest with
    | '\x7d' :: cs => .ok (counts, r.jump (r.skipped cs))
    | _ => .error .repetition
  match r.rest with
  | ',' :: cs =>
    let r := (r.jump cs).skip
    match least, r.rest with
    | none, _ => .error .repetition
    | some n, '\x7d' :: _ => finish (n, none) r
    | some n, _ =>
      match ← readCount r with
      | (some m, r) => if n ≤ m then finish (n, some m) r else .error .repetition
      | (none, _) => .error .repetition
  | _ =>
    match least with
    | some n => finish (n, some n) r
    | none => .error .repetition

private def dropLazyMark (r : Reader) : Reader :=
  match r.rest with
  | '?' :: cs => r.jump cs
  | _ => r

private def repeatLast (parts : List Part) (least : Nat) (most : Option Nat) :
    Except Fault (List Part) :=
  match parts.reverse with
  | [] => .error .nothingToRepeat
  | p :: before =>
    if p.onlyFlags then .error .nothingToRepeat
    else .ok ((⟨.repeated p.tree least most, p.depth + 1, false⟩ :: before).reverse)

/-- Branches up to a closing parenthesis or the end; `done` are the branches that are complete and
`parts` those of the present one. -/
private def readBranches : Nat → List Part → List Part → Reader → Except Fault (Part × Reader)
  | 0, _, _, _ => .error .unexpectedEnd
  | fuel + 1, done, parts, r => do
    let r := r.skip
    match r.rest with
    | [] | ')' :: _ => return (choiceOf (done ++ [sequenceOf parts]), r)
    | '|' :: cs => readBranches fuel (done ++ [sequenceOf parts]) [] (r.jump cs)
    | '(' :: cs =>
      match ← readOpening (r.jump cs) with
      | .setFlags after => readBranches fuel done (parts ++ [flagsPart]) after
      | .group inner =>
        let (p, left) ← readBranches fuel [] [] inner
        match left.rest with
        | ')' :: cs =>
          readBranches fuel done (parts ++ [⟨p.tree, p.depth + 1, false⟩])
            { left with rest := cs, flags := r.flags }
        | _ => .error .groupNotClosed
    | '[' :: cs =>
      let (m, left) ← readClass (r.jump cs)
      readBranches fuel done (parts ++ [⟨.one m.set, m.depth, false⟩]) left
    | '?' :: cs => readBranches fuel done (← repeatLast parts 0 (some 1)) (dropLazyMark (r.jump cs))
    | '*' :: cs => readBranches fuel done (← repeatLast parts 0 none) (dropLazyMark (r.jump cs))
    | '+' :: cs => readBranches fuel done (← repeatLast parts 1 none) (dropLazyMark (r.jump cs))
    | '\x7b' :: cs =>
      let _ ← repeatLast parts 0 none
      let ((least, most), left) ← readCounts (r.jump cs)
      readBranches fuel done (← repeatLast parts least most) (dropLazyMark left)
    | _ =>
      let (tree, left) ← readPrimitive r
      readBranches fuel done (parts ++ [⟨tree, 0, false⟩]) left

def parse (text : String) : Except Fault Tree := do
  let cs := text.toList
  let (p, left) ← readBranches (cs.length + 1) [] [] { rest := cs }
  if !left.rest.isEmpty then .error .groupNotOpened
  else if depthLimit < p.depth then .error .nestedTooDeep
  else if weightLimit < p.tree.weight then .error .tooLarge
  else return p.tree

end ClassForge.Pattern
