import ClassForge.Number.Digits
import ClassForge.Pattern.Basic
import ClassForge.Pattern.Reader

/-!
What may follow a backslash in a pattern: a character by itself or by its number, a class of
characters, or a condition on the place.
-/
namespace ClassForge.Pattern
open Unicode

inductive Atom where
  /-- `byte` says that the character was written as a two-digit number. -/
  | char (c : Char) (byte : Bool)
  | set (s : CharSet)
  | look (condition : Look)

/-- Characters that have a meaning of their own somewhere in a pattern. -/
def isMeta (c : Char) : Bool := "\\.+*?()|[]\x7b\x7d^$#&-~".toList.contains c

def isEscapable (c : Char) : Bool :=
  isMeta c || (c.toNat < 128 && !c.isAlphanum && c != '<' && c != '>')

/-- Names are compared without case, spaces, underscores, hyphens and a leading `is`. -/
def plainName (name : List Char) : String :=
  let lower := name.map Char.toLower
  let body := match lower with
    | 'i' :: 's' :: r => r
    | _ => lower
  let plain := body.filter fun c => c.toNat < 128 && c != ' ' && c != '_' && c != '-'
  if body.length < lower.length && plain == ['c'] then "isc" else String.ofList plain

private def named? (names : List (String × List String)) (name : String) : Option String :=
  (names.find? (·.2.contains name)).map (·.1)

def categorySet? (name : String) : Option CharSet :=
  match name with
  | "any" => some (.property .any)
  | "assigned" => some (.property .assigned)
  | "ascii" => some (.range (Char.ofNat 0) (Char.ofNat 127))
  | _ => (named? Category.names name).map fun n => .property (.category n)

def scriptSet? (name : String) : Option CharSet :=
  (named? Script.names name).map fun n => .property (.script n)

/-- A name alone is that of a property, a category or a script. -/
def propertySet? (name : List Char) : Option CharSet :=
  let n := plainName name
  let property :=
    if n == "cf" || n == "sc" || n == "lc" then none
    else (Property.find? n).map fun p => CharSet.property (.named p)
  property <|> categorySet? n <|> scriptSet? n

def propertyValueSet? (name value : List Char) : Option CharSet :=
  match plainName name with
  | "gc" | "generalcategory" => categorySet? (plainName value)
  | "sc" | "script" => scriptSet? (plainName value)
  | _ => none

private def braced (r : Reader) : List Char → Option (List Char × List Char)
  | [] => none
  | c :: cs =>
    if c == '\x7d' then some ([], cs)
    else (braced r cs).map fun (name, rest) => (c :: name, rest)

/-- Characters up to a closing brace, with blanks skipped between them where the flags say so. -/
private def bracedText (r : Reader) : Nat → List Char → Option (List Char × List Char)
  | 0, _ => none
  | fuel + 1, cs =>
    match r.skipped cs with
    | [] => none
    | c :: rest =>
      if c == '\x7d' then some ([], rest)
      else (bracedText r fuel rest).map fun (name, left) => (c :: name, left)

private def cutAt (mark : List Char) : List Char → Option (List Char × List Char)
  | [] => none
  | c :: cs =>
    match mark.isPrefixOf? (c :: cs) with
    | some rest => some ([], rest)
    | none => (cutAt mark cs).map fun (a, b) => (c :: a, b)

/-- The set of a property and whether it is written with `!=`. -/
private def query (name : List Char) : Option (CharSet × Bool) :=
  match cutAt "!=".toList name with
  | some (n, v) => (propertyValueSet? n v).map (·, true)
  | none =>
    match cutAt [':'] name with
    | some (n, v) => (propertyValueSet? n v).map (·, false)
    | none =>
      match cutAt ['='] name with
      | some (n, v) => (propertyValueSet? n v).map (·, false)
      | none => (propertySet? name).map (·, false)

/-- Folds a set where case is ignored, then turns it around where it is negated. Without Unicode a
negated set would hold parts of characters, so it is refused. -/
def closeSet (flags : Flags) (negated : Bool) (s : CharSet) : Except Fault CharSet :=
  let folded :=
    if !flags.ignoreCase then s
    else if flags.unicode then .folded s
    else .latinFolded s
  if !negated then .ok folded
  else if flags.unicode then .ok (.compl folded)
  else .error .needsUnicode

def readProperty (r : Reader) : Except Fault (CharSet × Reader) :=
  match r.rest with
  | letter :: cs =>
    match r.skipped cs with
    | [] => .error .unexpectedEnd
    | c :: rest =>
      let part : Except Fault (List Char × List Char) :=
        if c == '\x7b' then
          match bracedText r (rest.length + 1) rest with
          | some p => .ok p
          | none => .error .unexpectedEnd
        else if c == '\\' then .error (.unknownProperty "\\")
        else .ok ([c], r.skipped rest)
      part.bind fun (name, left) =>
        if !r.flags.unicode then .error .needsUnicode
        else match (if c == '\x7b' then query name else (propertySet? name).map (·, false)) with
          | none => .error (.unknownProperty (String.ofList name))
          | some (s, unequal) =>
            (closeSet r.flags ((letter == 'P') != unequal) s).map (·, r.jump left)
  | [] => .error .unexpectedEnd

private def latinWord : CharSet := .ofRanges [('0', '9'), ('A', 'Z'), ('_', '_'), ('a', 'z')]

private def latinBlank : CharSet := .union (.range '\t' '\r') (.single ' ')

/-- Digits, blanks and word characters, or, with an upper-case letter, all others. -/
def readShorthand (letter : Char) (r : Reader) : Except Fault (CharSet × Reader) :=
  let set :=
    if r.flags.unicode then
      match letter.toLower with
      | 'd' => .property (.category "Nd")
      | 's' => .property .blank
      | _ => .property .word
    else
      match letter.toLower with
      | 'd' => .range '0' '9'
      | 's' => latinBlank
      | _ => latinWord
  if !letter.isUpper then .ok (set, r)
  else if r.flags.unicode then .ok (.compl set, r)
  else .error .needsUnicode

private def charOfHex (ds : List Char) : Option Char := do
  let n ← (Number.readDigits? 16 ds).map (Number.value 16)
  if n.isValidChar then some (Char.ofNat n) else none

private def hexDigits (r : Reader) : Nat → List Char → Except Fault (List Char × List Char)
  | 0, cs => .ok ([], cs)
  | n + 1, cs =>
    match r.skipped cs with
    | [] => .error .unexpectedEnd
    | c :: rest =>
      if (Number.digitValue? 16 c).isNone then .error .hexEscape
      else (hexDigits r n rest).map fun (ds, left) => (c :: ds, left)

/-- The number of a character, of a fixed length after `letter` or of any length in braces. -/
def readHex (letter : Char) (r : Reader) : Except Fault (Atom × Reader) :=
  match r.skipped r.rest with
  | [] => .error .unexpectedEnd
  | c :: rest =>
    let part :=
      if c == '\x7b' then
        match bracedText r (rest.length + 1) rest with
        | some p => .ok p
        | none => .error .unexpectedEnd
      else hexDigits r (if letter == 'x' then 2 else if letter == 'u' then 4 else 8) (c :: rest)
    part.bind fun (ds, left) =>
      match if ds.isEmpty then none else charOfHex ds with
      | none => .error .hexEscape
      | some ch => .ok (.char ch (letter == 'x' && c != '\x7b'), r.jump (r.skipped left))

private def isBoundaryNameChar (c : Char) : Bool := c.isAlpha || c == '-'

private def boundaryName (r : Reader) : Nat → List Char → List Char × List Char
  | 0, cs => ([], cs)
  | fuel + 1, cs =>
    match cs with
    | [] => ([], [])
    | c :: rest =>
      if isBoundaryNameChar c then
        let (name, left) := boundaryName r fuel (r.skipped rest)
        (c :: name, left)
      else ([], cs)

/-- A word boundary, whose kind may follow in braces. Braces with anything but a name in them are a
repetition. -/
def readBoundary (r : Reader) : Except Fault (Look × Reader) :=
  let latin := !r.flags.unicode
  let plain := Look.wordBoundary latin false
  match r.rest with
  | '\x7b' :: rest =>
    match r.skipped rest with
    | [] => .error .unexpectedEnd
    | c :: cs =>
      if !isBoundaryNameChar c then .ok (plain, r)
      else match boundaryName r (cs.length + 1) (c :: cs) with
        | (name, '\x7d' :: left) =>
          match String.ofList name with
          | "start" => .ok (.wordStart latin, r.jump left)
          | "end" => .ok (.wordEnd latin, r.jump left)
          | "start-half" => .ok (.wordStartHalf latin, r.jump left)
          | "end-half" => .ok (.wordEndHalf latin, r.jump left)
          | _ => .error .boundaryName
        | _ => .error .boundaryName
  | _ => .ok (plain, r)

def readEscape (r : Reader) : Except Fault (Atom × Reader) :=
  let latin := !r.flags.unicode
  match r.rest with
  | [] => .error .unexpectedEnd
  | c :: cs =>
    let next := r.jump cs
    if c.isDigit then .error .backreference
    else if isEscapable c then .ok (.char c false, next)
    else match c with
      | 'x' | 'u' | 'U' => readHex c next
      | 'p' | 'P' => (readProperty r).map fun (s, left) => (.set s, left)
      | 'd' | 's' | 'w' | 'D' | 'S' | 'W' =>
        (readShorthand c next).map fun (s, left) => (.set s, left)
      | 'a' => .ok (.char '\x07' false, next)
      | 'f' => .ok (.char '\x0c' false, next)
      | 't' => .ok (.char '\t' false, next)
      | 'n' => .ok (.char '\n' false, next)
      | 'r' => .ok (.char '\r' false, next)
      | 'v' => .ok (.char '\x0b' false, next)
      | 'A' => .ok (.look .textStart, next)
      | 'z' => .ok (.look .textEnd, next)
      | 'b' => (readBoundary next).map fun (l, left) => (.look l, left)
      | 'B' => .ok (.look (.wordBoundary latin true), next)
      | '<' => .ok (.look (.wordStart latin), next)
      | '>' => .ok (.look (.wordEnd latin), next)
      | _ => .error (.escape c)

end ClassForge.Pattern
