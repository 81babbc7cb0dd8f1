import ClassForge.Toml.Quoted
import ClassForge.Toml.Scalar
import ClassForge.Toml.Table

/-!
The lines of a TOML document: keys with values, and the headers of tables and of the elements of
arrays of tables.
-/
namespace ClassForge.Toml

inductive Statement where
  | pair (path : List String) (key : String) (value : Value)
  | header (path : List String) (key : String)
  | element (path : List String) (key : String)

def isBareKeyChar (c : Char) : Bool := c.isAlphanum || c == '-' || c == '_'

private def readSimpleKey (cs : Chars) : Except Fault (String × Chars) :=
  match cs with
  | '"' :: _ | '\'' :: _ => (readShort cs).map fun (text, left) => (String.ofList text, left)
  | _ =>
    let word := cs.takeWhile isBareKeyChar
    if word.isEmpty then .error (.expected "key")
    else .ok (String.ofList word, cs.dropWhile isBareKeyChar)

private def readKeyParts : Nat → Chars → Except Fault (List String × Chars)
  | 0, _ => .error .nestedTooDeep
  | fuel + 1, cs => do
    let (key, left) ← readSimpleKey (skipSpaces cs)
    match skipSpaces left with
    | '.' :: left =>
      let (path, left) ← readKeyParts fuel left
      return (key :: path, left)
    | left => return ([key], left)

/-- A dotted key: the path to a table, and the key in it. -/
def readKey (cs : Chars) : Except Fault ((List String × String) × Chars) := do
  let (parts, left) ← readKeyParts (depthLimit - 1) cs
  match parts.reverse with
  | key :: path => return ((path.reverse, key), left)
  | [] => .error (.expected "key")

/-- Drops blanks, line breaks and comments that end with a line break. -/
private def skipLines : Nat → Chars → Chars
  | 0, cs => cs
  | fuel + 1, cs =>
    let cs := skipSpaces cs
    match newline? cs with
    | some left => skipLines fuel left
    | none =>
      match cs with
      | '#' :: _ =>
        match newline? (skipComment cs) with
        | some left => skipLines fuel left
        | none => cs
      | _ => cs

private abbrev ValueReader := Chars → Except Fault (Value × Chars)

private def readItems (readValue : ValueReader) :
    Nat → List Value → Chars → Except Fault (Value × Chars)
  | 0, _, _ => .error (.expected "end of array")
  | fuel + 1, done, cs => do
    let cs := skipLines cs.length cs
    match cs with
    | ']' :: left => return (.list done, left)
    | _ =>
      let (v, left) ← readValue cs
      match skipLines left.length left with
      | ',' :: left => readItems readValue fuel (done ++ [v]) left
      | ']' :: left => return (.list (done ++ [v]), left)
      | _ => .error (.expected "end of array")

private theorem readItems_keyed {readValue : ValueReader}
    (keyed : ∀ {cs v left}, readValue cs = .ok (v, left) → v.Keyed) {fuel : Nat} {done : List Value}
    {cs left : Chars} {v : Value} (earlier : ∀ v ∈ done, v.Keyed)
    (read : readItems readValue fuel done cs = .ok (v, left)) : v.Keyed := by
  induction fuel generalizing done cs with
  | zero => cases read
  | succ fuel ih =>
    rw [readItems] at read
    dsimp only at read
    split at read
    · obtain ⟨rfl, -⟩ := Prod.mk.inj (Except.ok.inj read)
      exact .list earlier
    · obtain ⟨⟨item, rest⟩, found, read⟩ := bind_succeeds read
      have longer : ∀ v ∈ done ++ [item], v.Keyed :=
        List.forall_mem_append.mpr ⟨earlier, List.forall_mem_singleton.mpr (keyed found)⟩
      dsimp only at read
      split at read
      · exact ih longer read
      · obtain ⟨rfl, -⟩ := Prod.mk.inj (Except.ok.inj read)
        exact .list longer
      · cases read

private def readPairs (readValue : ValueReader) :
    Nat → Table → Chars → Except Fault (Table × Chars)
  | 0, _, _ => .error (.expected "end of table")
  | fuel + 1, table, cs => do
    let ((path, key), left) ← readKey cs
    match left with
    | '=' :: left =>
      let (v, left) ← readValue (skipSpaces left)
      let table ← table.insert path key v
      match skipSpaces left with
      | ',' :: left => readPairs readValue fuel table left
      | '\x7d' :: left => return (table, left)
      | _ => .error (.expected "end of table")
    | _ => .error (.expected "equals sign")

private theorem readPairs_keyed {readValue : ValueReader}
    (keyed : ∀ {cs v left}, readValue cs = .ok (v, left) → v.Keyed) {fuel : Nat} {table new : Table}
    {cs left : Chars} (earlier : table.Keyed)
    (read : readPairs readValue fuel table cs = .ok (new, left)) : new.Keyed := by
  induction fuel generalizing table cs with
  | zero => cases read
  | succ fuel ih =>
    rw [readPairs] at read
    obtain ⟨⟨⟨path, key⟩, rest⟩, -, read⟩ := bind_succeeds read
    dsimp only at read
    split at read
    · obtain ⟨⟨item, rest⟩, found, read⟩ := bind_succeeds read
      obtain ⟨longer, inserted, read⟩ := bind_succeeds read
      have grown := earlier.insert (keyed found) inserted
      dsimp only at read
      split at read
      · exact ih grown read
      · obtain ⟨rfl, -⟩ := Prod.mk.inj (Except.ok.inj read)
        exact grown
      · cases read
    · cases read

/-- A value; `fuel` is one more than the number of arrays and inline tables it may be nested in. -/
def readValue : Nat → Chars → Except Fault (Value × Chars)
  | 0, _ => .error .nestedTooDeep
  | fuel + 1, cs =>
    match cs with
    | '"' :: _ | '\'' :: _ =>
      (readQuoted cs).map fun (text, left) => (.text (String.ofList text), left)
    | '[' :: left =>
      if fuel = 0 then .error .nestedTooDeep else readItems (readValue fuel) cs.length [] left
    | '\x7b' :: left =>
      if fuel = 0 then .error .nestedTooDeep
      else match skipSpaces left with
        | '\x7d' :: left => .ok (.table [], left)
        | _ => do
          let (table, left) ← readPairs (readValue fuel) cs.length .empty left
          return (table.toValue, left)
    | _ => do
      let (word, left) := splitWord cs
      return (← ofWord word, left)

theorem readValue_keyed {fuel : Nat} {cs left : Chars} {v : Value}
    (read : readValue fuel cs = .ok (v, left)) : v.Keyed := by
  induction fuel generalizing cs v left with
  | zero => cases read
  | succ fuel ih =>
    unfold readValue at read
    split at read
    · obtain ⟨⟨text, rest⟩, -, same⟩ := map_succeeds read
      exact (Prod.mk.inj same).1 ▸ .text _
    · obtain ⟨⟨text, rest⟩, -, same⟩ := map_succeeds read
      exact (Prod.mk.inj same).1 ▸ .text _
    · split at read
      · cases read
      · exact readItems_keyed ih (by simp) read
    · split at read
      · cases read
      · split at read
        · obtain ⟨rfl, -⟩ := Prod.mk.inj (Except.ok.inj read)
          exact .nil
        · obtain ⟨⟨table, rest⟩, found, same⟩ := bind_succeeds read
          obtain ⟨rfl, -⟩ := Prod.mk.inj (Except.ok.inj same)
          exact (readPairs_keyed ih .empty found).toValue
    · dsimp only at read
      obtain ⟨word, found, same⟩ := bind_succeeds read
      obtain ⟨rfl, -⟩ := Prod.mk.inj (Except.ok.inj same)
      exact ofWord_keyed found

private def endLine (cs : Chars) : Except Fault Chars :=
  match skipComment (skipSpaces cs) with
  | [] => .ok []
  | cs =>
    match newline? cs with
    | some left => .ok left
    | none => .error (.expected "end of line")

private def readStatement (cs : Chars) : Except Fault (Statement × Chars) :=
  match cs with
  | '[' :: '[' :: left => do
    let ((path, key), left) ← readKey left
    match left with
    | ']' :: ']' :: left => return (.element path key, left)
    | _ => .error (.expected "end of header")
  | '[' :: left => do
    let ((path, key), left) ← readKey left
    match left with
    | ']' :: left => return (.header path key, left)
    | _ => .error (.expected "end of header")
  | _ => do
    let ((path, key), left) ← readKey cs
    match left with
    | '=' :: left =>
      let (v, left) ← readValue depthLimit (skipSpaces left)
      return (.pair path key v, left)
    | _ => .error (.expected "equals sign")

def Statement.Keyed : Statement → Prop
  | .pair _ _ v => v.Keyed
  | .header .. | .element .. => True

private theorem readStatement_keyed {cs left : Chars} {s : Statement}
    (read : readStatement cs = .ok (s, left)) : s.Keyed := by
  unfold readStatement at read
  split at read
  · obtain ⟨⟨⟨path, key⟩, rest⟩, -, read⟩ := bind_succeeds read
    dsimp only at read
    split at read
    · obtain ⟨rfl, -⟩ := Prod.mk.inj (Except.ok.inj read)
      trivial
    · cases read
  · obtain ⟨⟨⟨path, key⟩, rest⟩, -, read⟩ := bind_succeeds read
    dsimp only at read
    split at read
    · obtain ⟨rfl, -⟩ := Prod.mk.inj (Except.ok.inj read)
      trivial
    · cases read
  · obtain ⟨⟨⟨path, key⟩, rest⟩, -, read⟩ := bind_succeeds read
    dsimp only at read
    split at read
    · obtain ⟨⟨v, rest⟩, found, same⟩ := bind_succeeds read
      obtain ⟨rfl, -⟩ := Prod.mk.inj (Except.ok.inj same)
      exact readValue_keyed found
    · cases read

private def readStatements : Nat → Chars → Except Fault (List Statement)
  | 0, _ => .error (.expected "end of document")
  | fuel + 1, cs => do
    let cs := skipSpaces cs
    match cs with
    | [] => return []
    | '#' :: _ | '\n' :: _ | '\r' :: _ => readStatements fuel (← endLine cs)
    | _ =>
      let (s, left) ← readStatement cs
      return s :: (← readStatements fuel (← endLine left))

private theorem readStatements_keyed {fuel : Nat} {cs : Chars} {given : List Statement}
    (read : readStatements fuel cs = .ok given) : ∀ s ∈ given, s.Keyed := by
  induction fuel generalizing cs given with
  | zero => cases read
  | succ fuel ih =>
    rw [readStatements] at read
    dsimp only at read
    split at read
    · exact Except.ok.inj read ▸ by simp
    · obtain ⟨rest, -, read⟩ := bind_succeeds read
      exact ih read
    · obtain ⟨rest, -, read⟩ := bind_succeeds read
      exact ih read
    · obtain ⟨rest, -, read⟩ := bind_succeeds read
      exact ih read
    · obtain ⟨⟨s, rest⟩, first, read⟩ := bind_succeeds read
      obtain ⟨rest, -, read⟩ := bind_succeeds read
      obtain ⟨others, later, same⟩ := bind_succeeds read
      obtain rfl := Except.ok.inj same
      exact List.forall_mem_cons.mpr ⟨readStatement_keyed first, ih later⟩

/-- The statements of a document, which may begin with a byte order mark. -/
def statements (text : String) : Except Fault (List Statement) :=
  let cs := match text.toList with
    | '\uFEFF' :: cs => cs
    | cs => cs
  readStatements (cs.length + 1) cs

theorem statements_keyed {text : String} {given : List Statement}
    (read : statements text = .ok given) : ∀ s ∈ given, s.Keyed := readStatements_keyed read

end ClassForge.Toml
