import ClassForge.Number.Digits
import ClassForge.Toml.Fault

/-!
Blanks, comments and quoted texts of TOML documents. Basic texts have escapes, literal ones have
none; with three quotation marks, both may run over several lines.
-/
namespace ClassForge.Toml
open Number

abbrev Chars := List Char

def isSpace (c : Char) : Bool := c == ' ' || c == '\t'

def skipSpaces (cs : Chars) : Chars := cs.dropWhile isSpace

/-- Characters that may stand in comments: all but controls other than the tab. -/
def isPlain (c : Char) : Bool := c == '\t' || (32 ≤ c.toNat && c.toNat != 127)

def skipComment : Chars → Chars
  | '#' :: cs => cs.dropWhile isPlain
  | cs => cs

/-- What follows a line break: a line feed, with or without a carriage return before it. -/
def newline? : Chars → Option Chars
  | '\n' :: cs => some cs
  | '\r' :: '\n' :: cs => some cs
  | _ => none

private def charOfDigits (cs : Chars) : Except Fault Char :=
  match (readDigits? 16 cs).map (value 16) with
  | some n => if n.isValidChar then .ok (Char.ofNat n) else .error .escape
  | none => .error .escape

def readEscape : Chars → Except Fault (Char × Chars)
  | 'b' :: cs => .ok ('\x08', cs)
  | 'f' :: cs => .ok ('\x0c', cs)
  | 'n' :: cs => .ok ('\n', cs)
  | 'r' :: cs => .ok ('\r', cs)
  | 't' :: cs => .ok ('\t', cs)
  | '"' :: cs => .ok ('"', cs)
  | '\\' :: cs => .ok ('\\', cs)
  | 'u' :: cs =>
    if cs.length < 4 then .error .escape
    else (charOfDigits (cs.take 4)).map (·, cs.drop 4)
  | 'U' :: cs =>
    if cs.length < 8 then .error .escape
    else (charOfDigits (cs.take 8)).map (·, cs.drop 8)
  | _ => .error .escape

/-- The rest of a text on one line, after its opening quotation mark. -/
private def readLine (escapes : Bool) (mark : Char) : Nat → Chars → Except Fault (Chars × Chars)
  | 0, _ => .error (.expected "end of string")
  | fuel + 1, cs =>
    match cs with
    | [] => .error (.expected "end of string")
    | c :: rest =>
      if c == mark then .ok ([], rest)
      else if escapes && c == '\\' then do
        let (d, left) ← readEscape rest
        let (text, left) ← readLine escapes mark fuel left
        return (d :: text, left)
      else if !isPlain c then .error (.expected "end of string")
      else do
        let (text, left) ← readLine escapes mark fuel rest
        return (c :: text, left)

private def countMarks (mark : Char) (cs : Chars) : Nat := (cs.takeWhile (· == mark)).length

private def skipBreaks : Chars → Chars
  | '\n' :: cs => skipBreaks cs
  | '\r' :: '\n' :: cs => skipBreaks cs
  | c :: cs => if isSpace c then skipBreaks cs else c :: cs
  | [] => []

/-- The rest of a text over several lines. Up to two quotation marks may stand inside it, also
right before the three that end it. -/
private def readLines (escapes : Bool) (mark : Char) : Nat → Chars → Except Fault (Chars × Chars)
  | 0, _ => .error (.expected "end of string")
  | fuel + 1, cs =>
    match cs with
    | [] => .error (.expected "end of string")
    | c :: rest =>
      if c == mark then
        let n := countMarks mark cs
        if n < 3 then do
          let (text, left) ← readLines escapes mark fuel (cs.drop n)
          return (cs.take n ++ text, left)
        else if n ≤ 5 then .ok (cs.take (n - 3), cs.drop n)
        else .error (.expected "end of string")
      else if escapes && c == '\\' then
        match newline? (skipSpaces rest) with
        | some left => readLines escapes mark fuel (skipBreaks left)
        | none => do
          let (d, left) ← readEscape rest
          let (text, left) ← readLines escapes mark fuel left
          return (d :: text, left)
      else match newline? cs with
        | some left => do
          let (text, left) ← readLines escapes mark fuel left
          return ('\n' :: text, left)
        | none =>
          if !isPlain c then .error (.expected "end of string")
          else do
            let (text, left) ← readLines escapes mark fuel rest
            return (c :: text, left)

def readShort (cs : Chars) : Except Fault (Chars × Chars) :=
  match cs with
  | '"' :: rest => readLine true '"' cs.length rest
  | '\'' :: rest => readLine false '\'' cs.length rest
  | _ => .error (.expected "string")

/-- A text in one or three quotation marks. A line break right after the first three is dropped. -/
def readQuoted (cs : Chars) : Except Fault (Chars × Chars) :=
  match cs with
  | '"' :: '"' :: '"' :: rest => readLines true '"' cs.length ((newline? rest).getD rest)
  | '\'' :: '\'' :: '\'' :: rest => readLines false '\'' cs.length ((newline? rest).getD rest)
  | _ => readShort cs

end ClassForge.Toml
