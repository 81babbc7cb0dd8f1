/-!
Similarity of two words after Jaro and Winkler, between zero and one, and the suggestion of a known
word for one that is not known. Two characters of the words agree when they are equal and not
farther apart than half the longer word; the score rises with the agreeing characters, falls with
those that agree out of order, and gains from up to four equal characters at the start.
-/
namespace ClassForge.Text.Similarity

/-- Takes the first unused place, among those from `low` up to but not including `high`, whose
character is `c`. -/
private def mark? (c : Char) (low high : Nat) :
    Nat → List (Char × Bool) → Option (List (Char × Bool))
  | _, [] => none
  | place, (d, used) :: rest =>
    if low ≤ place && place < high && c == d && !used then some ((d, true) :: rest)
    else (mark? c low high (place + 1) rest).map ((d, used) :: ·)

/-- The characters of the first word that agree with one of the second, in order, and the second
word with the places that agree marked. -/
private def agreeing (reach : Nat) :
    Nat → List Char → List (Char × Bool) → List Char × List (Char × Bool)
  | _, [], marked => ([], marked)
  | place, c :: cs, marked =>
    match mark? c (place - reach) (place + reach + 1) 0 marked with
    | some marked' =>
      let (found, final) := agreeing reach (place + 1) cs marked'
      (c :: found, final)
    | none => agreeing reach (place + 1) cs marked

def jaro (a b : List Char) : Float :=
  if a.isEmpty && b.isEmpty then 1.0
  else if a.isEmpty || b.isEmpty then 0.0
  else
    let reach := max a.length b.length / 2 - 1
    let (found, marked) := agreeing reach 0 a (b.map (·, false))
    let agreed := found.length
    if agreed = 0 then 0.0
    else
      let other := (marked.filter (·.2)).map (·.1)
      let swapped := ((found.zip other).filter fun (x, y) => x != y).length / 2
      let m := Float.ofNat agreed
      (m / Float.ofNat a.length + m / Float.ofNat b.length +
        (m - Float.ofNat swapped) / m) / 3.0

/-- How many characters the words share at the start, counting at most four. -/
private def sharedStart (a b : List Char) : Nat :=
  ((a.zip b).takeWhile fun (x, y) => x == y).length |> min 4

def jaroWinkler (a b : List Char) : Float :=
  let score := jaro a b
  if score > 0.7 then score + 0.1 * Float.ofNat (sharedStart a b) * (1.0 - score) else score

def threshold : Float := 0.75

def suggest (word : String) (known : List String) : Option String :=
  (known.foldl (fun (best : Float × Option String) k =>
    let score := jaroWinkler word.toList k.toList
    if score > best.1 then (score, some k) else best) (threshold, none)).2

end ClassForge.Text.Similarity
