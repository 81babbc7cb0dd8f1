import ClassForge.Toml.Fault
import ClassForge.Value

/-!
Numbers, truth values, dates and times of TOML documents. Each is a word of letters, digits, signs,
points, colons and underscores; a date and a time may also be joined by a space.
-/
namespace ClassForge.Toml
open Number

def isWordChar (c : Char) : Bool :=
  c.isAlphanum || c == '_' || c == '+' || c == '-' || c == '.' || c == ':'

/-- Digits with single underscores between them, without the underscores. -/
private def plainDigits? (base : Nat) : List Char → Option (List Char)
  | [] => none
  | [c] => if (digitValue? base c).isSome then some [c] else none
  | c :: '_' :: rest =>
    if (digitValue? base c).isSome then (plainDigits? base rest).map (c :: ·) else none
  | c :: rest =>
    if (digitValue? base c).isSome then (plainDigits? base rest).map (c :: ·) else none

private def splitSign : List Char → Bool × List Char
  | '-' :: r => (true, r)
  | '+' :: r => (false, r)
  | r => (false, r)

private def wholeDigits? (cs : List Char) : Option (List Char) := do
  let ds ← plainDigits? 10 cs
  match ds with
  | '0' :: _ :: _ => none
  | _ => some ds

private def bounded (n : Int) : Except Fault Value :=
  if -0x8000000000000000 ≤ n ∧ n < 0x8000000000000000 then .ok (.integer n) else .error .number

private theorem bounded_keyed {n : Int} {v : Value} (read : bounded n = .ok v) : v.Keyed := by
  unfold bounded at read
  split at read
  · exact Except.ok.inj read ▸ .integer n
  · cases read

private def natOf (base : Nat) (ds : List Char) : Nat :=
  ((readDigits? base ds).map (value base)).getD 0

private def integer? (word : List Char) : Option (Except Fault Value) :=
  let based (base : Nat) (cs : List Char) : Except Fault Value :=
    match plainDigits? base cs with
    | some ds => bounded (natOf base ds)
    | none => .error .number
  match word with
  | '0' :: 'x' :: cs => some (based 16 cs)
  | '0' :: 'o' :: cs => some (based 8 cs)
  | '0' :: 'b' :: cs => some (based 2 cs)
  | _ => do
    let (negative, cs) := splitSign word
    let ds ← wholeDigits? cs
    return bounded (if negative then -(natOf 10 ds : Int) else natOf 10 ds)

private theorem integer_keyed {word : List Char} {v : Value} (read : integer? word = some (.ok v)) :
    v.Keyed := by
  have based {base : Nat} {cs : List Char}
      (read : some (match plainDigits? base cs with
        | some ds => bounded (natOf base ds)
        | none => .error .number) = some (.ok v)) : v.Keyed := by
    split at read
    · exact bounded_keyed (Option.some.inj read)
    · cases read
  unfold integer? at read
  split at read
  · exact based read
  · exact based read
  · exact based read
  · obtain ⟨ds, -, read⟩ := Option.bind_eq_some_iff.mp read
    exact bounded_keyed (Option.some.inj read)

private def exponent? (cs : List Char) : Option (List Char) := do
  let (negative, ds) := splitSign cs
  let ds ← plainDigits? 10 ds
  return 'e' :: (if negative then '-' :: ds else ds)

private def splitExponent (cs : List Char) : List Char × Option (List Char) :=
  match cs.dropWhile (fun c => c != 'e' && c != 'E') with
  | [] => (cs, none)
  | _ :: after => (cs.takeWhile (fun c => c != 'e' && c != 'E'), some after)

/-- The number written by digits with a point or a power. -/
private def decimal? (negative : Bool) (cs : List Char) : Option Binary64 := do
  let (body, power) := splitExponent cs
  let power ← match power with
    | some p => exponent? p
    | none => some []
  let fraction ← match body.dropWhile (· != '.') with
    | [] => if power.isEmpty then none else some []
    | _ :: after => (plainDigits? 10 after).map ('.' :: ·)
  let ds ← wholeDigits? (body.takeWhile (· != '.'))
  Binary64.read? ((if negative then ['-'] else []) ++ ds ++ fraction ++ power)

private def real? (word : List Char) : Option (Except Fault Value) :=
  let (negative, cs) := splitSign word
  if cs == "inf".toList then some (.ok (.real (.infinite negative)))
  else if cs == "nan".toList then some (.ok (.real .nan))
  else (decimal? negative cs).map fun x =>
    if x == .infinite false then .error .number else .ok (.real x)

private theorem real_keyed {word : List Char} {v : Value} (read : real? word = some (.ok v)) :
    v.Keyed := by
  unfold real? at read
  rcases splitSign word with ⟨negative, cs⟩
  dsimp only at read
  split at read
  · exact Except.ok.inj (Option.some.inj read) ▸ .real _
  split at read
  · exact Except.ok.inj (Option.some.inj read) ▸ .real _
  obtain ⟨x, -, read⟩ := Option.map_eq_some_iff.mp read
  split at read
  · cases read
  · exact Except.ok.inj read ▸ .real x

private def twoDigits? (cs : List Char) : Option (Nat × List Char) :=
  match cs with
  | a :: b :: rest => if a.isDigit && b.isDigit then some (natOf 10 [a, b], rest) else none
  | _ => none

private def isLeapYear (y : Nat) : Bool := y % 4 == 0 && (y % 100 != 0 || y % 400 == 0)

private def daysInMonth (y m : Nat) : Nat :=
  if m = 2 then (if isLeapYear y then 29 else 28)
  else if m = 4 ∨ m = 6 ∨ m = 9 ∨ m = 11 then 30 else 31

private def date? (cs : List Char) : Option (List Char) := do
  let year := cs.take 4
  if year.length < 4 || !year.all Char.isDigit then none
  let '-' :: cs := cs.drop 4 | none
  let (month, cs) ← twoDigits? cs
  let '-' :: cs := cs | none
  let (day, cs) ← twoDigits? cs
  if month = 0 ∨ 12 < month ∨ day = 0 ∨ daysInMonth (natOf 10 year) month < day then none
  else some cs

private def time? (cs : List Char) : Option (List Char) := do
  let (hour, cs) ← twoDigits? cs
  let ':' :: cs := cs | none
  let (minute, cs) ← twoDigits? cs
  let ':' :: cs := cs | none
  let (second, cs) ← twoDigits? cs
  if 23 < hour ∨ 59 < minute ∨ 60 < second then none
  match cs with
  | '.' :: rest =>
    let after := rest.dropWhile Char.isDigit
    if after.length = rest.length then none else some after
  | _ => some cs

/-- Nothing, or the distance from universal time. -/
private def isOffset (cs : List Char) : Bool :=
  match cs with
  | [] | ['Z'] | ['z'] => true
  | sign :: rest =>
    (sign == '+' || sign == '-') &&
      (match twoDigits? rest with
      | some (hour, ':' :: rest) =>
        match twoDigits? rest with
        | some (minute, []) => hour ≤ 23 && minute ≤ 59
        | _ => false
      | _ => false)

private def isMoment (word : List Char) : Bool :=
  match date? word with
  | some [] => true
  | some (c :: rest) => (c == 'T' || c == 't' || c == ' ') && ((time? rest).any isOffset)
  | none => (time? word).any (·.isEmpty)

def ofWord (word : List Char) : Except Fault Value :=
  if word == "true".toList then .ok (.boolean true)
  else if word == "false".toList then .ok (.boolean false)
  else if isMoment word then .ok (.date (String.ofList word))
  else match real? word with
    | some r => r
    | none => (integer? word).getD (.error .number)

theorem ofWord_keyed {word : List Char} {v : Value} (read : ofWord word = .ok v) : v.Keyed := by
  unfold ofWord at read
  split at read
  · exact Except.ok.inj read ▸ .boolean true
  split at read
  · exact Except.ok.inj read ▸ .boolean false
  split at read
  · exact Except.ok.inj read ▸ .date (String.ofList word)
  split at read
  · rename_i real
    exact real_keyed (read ▸ real)
  · cases whole : integer? word with
    | none => rw [whole] at read; cases read
    | some r =>
      rw [whole, Option.getD_some] at read
      exact integer_keyed (read ▸ whole)

/-- The word at the start, with the time that follows a date after a space. -/
def splitWord (cs : List Char) : List Char × List Char :=
  let word := cs.takeWhile isWordChar
  let rest := cs.dropWhile isWordChar
  match date? word, rest with
  | some [], ' ' :: after =>
    match twoDigits? after with
    | some (_, ':' :: _) => (word ++ ' ' :: after.takeWhile isWordChar, after.dropWhile isWordChar)
    | _ => (word, rest)
  | _, _ => (word, rest)

end ClassForge.Toml
