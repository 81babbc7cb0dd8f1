import ClassForge.Json.Basic

/-!
Reading of JSON documents that hold texts, lists and objects. White space may stand around every
mark; a text must not hold a control, and a pair of surrogates is read as one character.
-/
namespace ClassForge.Json

def isSpace (c : Char) : Bool := c == ' ' || c == '\n' || c == '\r' || c == '\t'

def skipSpace (cs : List Char) : List Char := cs.dropWhile isSpace

def fourDigits? (a b c d : Char) : Option Nat :=
  (Number.readDigits? 16 [a, b, c, d]).map (Number.value 16)

/-- The character of a number in an escape, if it is one without its pair. -/
def single? (n : Nat) : Option Char :=
  if 0xD800 ≤ n && n ≤ 0xDFFF then none else some (Char.ofNat n)

def pair? (high low : Nat) : Option Char :=
  if 0xD800 ≤ high && high ≤ 0xDBFF && 0xDC00 ≤ low && low ≤ 0xDFFF then
    some (Char.ofNat (0x10000 + (high - 0xD800) * 0x400 + (low - 0xDC00)))
  else none

def plainEscape? : Char → Option Char
  | '"' => some '"'
  | '\\' => some '\\'
  | '/' => some '/'
  | 'b' => some '\x08'
  | 'f' => some '\x0c'
  | 'n' => some '\n'
  | 'r' => some '\r'
  | 't' => some '\t'
  | _ => none

/-- The character that an escape stands for, behind its backslash, and what follows. -/
def escaped? : List Char → Option (Char × List Char)
  | [] => none
  | 'u' :: a :: b :: c :: d :: rest => do
    let n ← fourDigits? a b c d
    match single? n with
    | some ch => return (ch, rest)
    | none =>
      match rest with
      | '\\' :: 'u' :: e :: f :: g :: h :: rest => return (← pair? n (← fourDigits? e f g h), rest)
      | _ => none
  | c :: rest => (plainEscape? c).map (·, rest)

theorem escaped?_length {cs rest : List Char} {c : Char} (read : escaped? cs = some (c, rest)) :
    rest.length < cs.length := by
  unfold escaped? at read
  split at read
  · cases read
  · obtain ⟨n, -, read⟩ := Option.bind_eq_some_iff.mp read
    split at read
    · cases read
      simp only [List.length_cons]
      omega
    · split at read
      · obtain ⟨low, -, read⟩ := Option.bind_eq_some_iff.mp read
        obtain ⟨ch, -, read⟩ := Option.bind_eq_some_iff.mp read
        cases read
        simp only [List.length_cons]
        omega
      · cases read
  · obtain ⟨ch, -, same⟩ := Option.map_eq_some_iff.mp read
    cases same
    simp

def textBody : List Char → Option (List Char × List Char)
  | [] => none
  | c :: cs =>
    if c = '"' then some ([], cs)
    else if c = '\\' then
      match _read : escaped? cs with
      | some (ch, rest) => (textBody rest).map fun (ds, rest) => (ch :: ds, rest)
      | none => none
    else if c.toNat < 32 then none
    else (textBody cs).map fun (ds, rest) => (c :: ds, rest)
termination_by cs => cs.length
decreasing_by
  all_goals simp only [List.length_cons]
  · have := escaped?_length _read
    omega
  · omega

mutual

/-- A value after white space, and what follows. `fuel` bounds the marks that are read. -/
def readValue : Nat → List Char → Option (Value × List Char)
  | 0, _ => none
  | fuel + 1, cs =>
    match skipSpace cs with
    | '"' :: rest => (textBody rest).map fun (s, rest) => (.text (String.ofList s), rest)
    | '[' :: rest =>
      match skipSpace rest with
      | ']' :: rest => some (.list [], rest)
      | rest => do
        let (v, rest) ← readValue fuel rest
        let (vs, rest) ← readItems fuel rest
        return (.list (v :: vs), rest)
    | '\x7b' :: rest =>
      match skipSpace rest with
      | '\x7d' :: rest => some (.object [], rest)
      | rest => do
        let (m, rest) ← readMember fuel rest
        let (ms, rest) ← readMembers fuel rest
        return (.object (m :: ms), rest)
    | _ => none

def readItems : Nat → List Char → Option (List Value × List Char)
  | 0, _ => none
  | fuel + 1, cs =>
    match skipSpace cs with
    | ']' :: rest => some ([], rest)
    | ',' :: rest => do
      let (v, rest) ← readValue fuel rest
      let (vs, rest) ← readItems fuel rest
      return (v :: vs, rest)
    | _ => none

def readMember : Nat → List Char → Option ((String × Value) × List Char)
  | 0, _ => none
  | fuel + 1, cs =>
    match skipSpace cs with
    | '"' :: rest => do
      let (key, rest) ← textBody rest
      match skipSpace rest with
      | ':' :: rest =>
        let (v, rest) ← readValue fuel rest
        return ((String.ofList key, v), rest)
      | _ => none
    | _ => none

def readMembers : Nat → List Char → Option (List (String × Value) × List Char)
  | 0, _ => none
  | fuel + 1, cs =>
    match skipSpace cs with
    | '\x7d' :: rest => some ([], rest)
    | ',' :: rest => do
      let (m, rest) ← readMember fuel rest
      let (ms, rest) ← readMembers fuel rest
      return (m :: ms, rest)
    | _ => none

end

def parse (text : String) : Option Value := do
  let cs := text.toList
  let (v, rest) ← readValue (cs.length + 1) cs
  if (skipSpace rest).isEmpty then some v else none

end ClassForge.Json
