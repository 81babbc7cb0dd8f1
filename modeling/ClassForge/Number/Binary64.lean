import ClassForge.Number.Digits

/-!
Binary numbers of 64 bits, as exact values `mantissa * 2 ^ exponent`. A decimal is rounded to the
nearest of them, of two equally near ones to the one with the even mantissa; a number is written
with the fewest digits that are rounded back to it, and never with an exponent.
-/
namespace ClassForge.Number

inductive Binary64 where
  | nan
  | infinite (negative : Bool)
  /-- Either `2 ^ 52 ≤ mantissa < 2 ^ 53`, or the exponent is the least one. -/
  | finite (negative : Bool) (mantissa : Nat) (exponent : Int)
  deriving DecidableEq, Repr

namespace Binary64

def leastExponent : Int := -1074

def greatestExponent : Int := 971

def mantissaLimit : Nat := 0x20000000000000

/-- `num / den` rounded to the nearest whole number, a half to the even one. -/
def roundDiv (num den : Nat) : Nat :=
  let q := num / den
  let r := num % den
  if 2 * r < den then q
  else if den < 2 * r then q + 1
  else q + q % 2

/-- `num / den` as a multiple of `2 ^ e`, rounded. -/
private def scaled (num den : Nat) (e : Int) : Nat :=
  if 0 ≤ e then roundDiv num (den * Nat.pow 2 e.toNat)
  else roundDiv (num * Nat.pow 2 (-e).toNat) den

/-- The nearest number to `num / den`, for a positive `num`. -/
def ofRatio (negative : Bool) (num den : Nat) : Binary64 :=
  let guess := max leastExponent ((num.log2 : Int) - (den.log2 : Int) - 53)
  let e := if scaled num den guess < mantissaLimit then guess
    else if scaled num den (guess + 1) < mantissaLimit then guess + 1 else guess + 2
  let m := scaled num den e
  if greatestExponent < e then .infinite negative else .finite negative m e

def ofDecimal (negative : Bool) (digits : Nat) (power : Int) : Binary64 :=
  let size : Int := (render 10 digits).length + power
  if digits = 0 then .finite negative 0 leastExponent
  else if 310 < size then .infinite negative
  else if size < -400 then .finite negative 0 leastExponent
  else if 0 ≤ power then ofRatio negative (digits * Nat.pow 10 power.toNat) 1
  else ofRatio negative digits (Nat.pow 10 (-power).toNat)

/-- A multiple of a quarter of `2 ^ e`, as a fraction. -/
private def quarters (q : Nat) (e : Int) : Nat × Nat :=
  if 2 ≤ e then (q * Nat.pow 2 (e - 2).toNat, 1) else (q, Nat.pow 2 (2 - e).toNat)

/-- `num / den` in units of `10 ^ k`, rounded down. -/
private def units (num den : Nat) (k : Int) : Nat :=
  if 0 ≤ k then num / (den * Nat.pow 10 k.toNat) else num * Nat.pow 10 (-k).toNat / den

/-- How `count * 10 ^ k` compares with `num / den`. -/
private def compareUnits (count : Nat) (k : Int) (num den : Nat) : Ordering :=
  if 0 ≤ k then compare (count * Nat.pow 10 k.toNat * den) num
  else compare (count * den) (num * Nat.pow 10 (-k).toNat)

/-- The least `k` with `num / den < 10 ^ k`. -/
private def decimalSize (num den : Nat) : Int :=
  let low : Int := (render 10 (num / den)).length
  if den ≤ num then low
  else
    let rec go : Nat → Int → Int
      | 0, k => k
      | fuel + 1, k => if units num den (k - 1) = 0 then go fuel (k - 1) else k
    go 400 0

/-- The same number with up to so many zeros fewer at its end. -/
def dropZeros : Nat → Nat × Int → Nat × Int
  | 0, d => d
  | fuel + 1, (digits, power) =>
    if digits % 10 = 0 then dropZeros fuel (digits / 10, power + 1) else (digits, power)

/-- Digits and a power of ten, the fewest digits that are rounded back to the number. -/
def shortest (m : Nat) (e : Int) : Nat × Int :=
  let (num, den) := quarters (4 * m) e
  let (high, _) := quarters (4 * m + 2) e
  let (low, _) :=
    quarters (if 2 * m = mantissaLimit ∧ leastExponent < e then 4 * m - 1 else 4 * m - 2) e
  let closed := m % 2 = 0
  let inside (count : Nat) (k : Int) : Bool :=
    let overLow := compareUnits count k low den
    let underHigh := compareUnits count k high den
    (overLow == .gt || (closed && overLow == .eq)) &&
      (underHigh == .lt || (closed && underHigh == .eq))
  let size := decimalSize num den
  let rec go : Nat → Nat → Nat × Int
    | 0, _ => (units num den (size - 17), size - 17)
    | fuel + 1, count =>
      let k := size - count
      let below := units num den k
      match inside below k, inside (below + 1) k with
      | true, true =>
        -- Twice the value against the sum of the two neighbours.
        if compareUnits (2 * below + 1) k (2 * num) den == .lt then (below + 1, k) else (below, k)
      | true, false => (below, k)
      | false, true => (below + 1, k)
      | false, false => go fuel (count + 1)
  dropZeros 18 (go 17 1)

def positional (digits : Nat) (power : Int) : List Char :=
  let ds := render 10 digits
  if 0 ≤ power then ds ++ List.replicate power.toNat '0'
  else
    let places := (-power).toNat
    let padded := List.replicate (places + 1 - ds.length) '0' ++ ds
    padded.take (padded.length - places) ++ '.' :: padded.drop (padded.length - places)

def render : Binary64 → String
  | .nan => "NaN"
  | .infinite negative => if negative then "-inf" else "inf"
  | .finite negative m e =>
    let body := if m = 0 then ['0'] else
      let (digits, power) := shortest m e
      positional digits power
    String.ofList (if negative then '-' :: body else body)

/-- As `render`, but with a decimal point in every finite number. -/
def renderWithPoint (x : Binary64) : String :=
  let text := x.render
  match x with
  | .finite .. => if text.toList.contains '.' then text else text ++ ".0"
  | _ => text

private def readExponent? : List Char → Option Int
  | [] => some 0
  | c :: cs =>
    if c != 'e' && c != 'E' then none
    else match cs with
      | '-' :: ds =>
        if ds.isEmpty then none else (readDigits? 10 ds).map fun v => -(value 10 v : Int)
      | '+' :: ds =>
        if ds.isEmpty then none else (readDigits? 10 ds).map fun v => (value 10 v : Int)
      | ds => if ds.isEmpty then none else (readDigits? 10 ds).map fun v => (value 10 v : Int)

/-- A decimal with an optional sign, point and exponent, and a digit before or after the point. -/
def read? (cs : List Char) : Option Binary64 := do
  let (negative, cs) := match cs with
    | '-' :: r => (true, r)
    | '+' :: r => (false, r)
    | _ => (false, cs)
  let whole := cs.takeWhile Char.isDigit
  let (fraction, rest) := match cs.dropWhile Char.isDigit with
    | '.' :: r => (r.takeWhile Char.isDigit, r.dropWhile Char.isDigit)
    | r => ([], r)
  if whole.isEmpty && fraction.isEmpty then none
  let exponent ← readExponent? rest
  let ds ← readDigits? 10 (whole ++ fraction)
  return ofDecimal negative (value 10 ds) (exponent - fraction.length)

end Binary64
end ClassForge.Number
