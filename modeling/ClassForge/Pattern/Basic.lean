import ClassForge.Pattern.CharSet

/-!
Name patterns as trees, and search by sets of places. A place is a number of characters from the
start; `after p text places` are the places where a match of `p` that starts at one of `places` may
end. A text is found when some match starts anywhere in it.
-/
namespace ClassForge.Pattern

inductive Look where
  | textStart
  | textEnd
  | lineStart
  | lineEnd
  /-- Lines may also end with a carriage return, alone or before a line feed. -/
  | anyLineStart
  | anyLineEnd
  | wordBoundary (latin negated : Bool)
  | wordStart (latin : Bool)
  | wordEnd (latin : Bool)
  | wordStartHalf (latin : Bool)
  | wordEndHalf (latin : Bool)
  deriving DecidableEq, Repr

inductive Tree where
  | empty
  | one (set : CharSet)
  | look (condition : Look)
  | both (first second : Tree)
  | either (first second : Tree)
  | repeated (inner : Tree) (least : Nat) (most : Option Nat)
  deriving DecidableEq, Repr

def isLatinWordChar (c : Char) : Bool := c.isAlphanum || c == '_'

namespace Look

def isWord (latin : Bool) : Option Char → Bool
  | none => false
  | some c => if latin then isLatinWordChar c else isWordChar c

def holds (before after : Option Char) : Look → Bool
  | .textStart => before.isNone
  | .textEnd => after.isNone
  | .lineStart => before.isNone || before == some '\n'
  | .lineEnd => after.isNone || after == some '\n'
  | .anyLineStart =>
    before.isNone || before == some '\n' || (before == some '\r' && after != some '\n')
  | .anyLineEnd =>
    after.isNone || after == some '\r' || (after == some '\n' && before != some '\r')
  | .wordBoundary latin negated => (isWord latin before != isWord latin after) != negated
  | .wordStart latin => !isWord latin before && isWord latin after
  | .wordEnd latin => isWord latin before && !isWord latin after
  | .wordStartHalf latin => !isWord latin before
  | .wordEndHalf latin => !isWord latin after

end Look

def mergePlaces (a b : List Nat) : List Nat :=
  (List.merge a b).foldr (fun x acc => if acc.head? == some x then acc else x :: acc) []

def charBefore (text : Array Char) (i : Nat) : Option Char :=
  if i = 0 then none else text[i - 1]?

def times (f : List Nat → List Nat) : Nat → List Nat → List Nat
  | 0, places => places
  | n + 1, places => times f n (f places)

/-- What at most so many applications of `f` reach from `fresh`, together with `seen`. -/
def gather (f : List Nat → List Nat) : Nat → List Nat → List Nat → List Nat
  | 0, seen, _ => seen
  | n + 1, seen, fresh =>
    let next := (f fresh).filter fun i => !seen.contains i
    if next.isEmpty then seen else gather f n (mergePlaces seen next) next

namespace Tree

def after (text : Array Char) : Tree → List Nat → List Nat
  | .empty, places => places
  | .one set, places =>
    places.filterMap fun i => if text[i]?.any set.mem then some (i + 1) else none
  | .look condition, places =>
    places.filter fun i => condition.holds (charBefore text i) text[i]?
  | .both a b, places => b.after text (a.after text places)
  | .either a b, places => mergePlaces (a.after text places) (b.after text places)
  | .repeated inner least most, places =>
    let start := times (fun s => inner.after text s) least places
    let rounds := match most with
      | some m => min (m - least) (text.size + 1)
      | none => text.size + 1
    gather (fun s => inner.after text s) rounds start start

def found (p : Tree) (text : String) : Bool :=
  let cs := text.toList.toArray
  !(p.after cs (List.range (cs.size + 1))).isEmpty

/-- A pattern that matches nothing but the empty text is repeated at most once. -/
def isEmptyOnly : Tree → Bool
  | .empty => true
  | .one _ => false
  | .look _ => true
  | .both a b => a.isEmptyOnly && b.isEmptyOnly
  | .either a b => a.isEmptyOnly && b.isEmptyOnly
  | .repeated inner _ most => inner.isEmptyOnly || most == some 0

/-- About how many bytes a matcher keeps for the pattern. -/
def weight : Tree → Nat
  | .empty => 32
  | .one set => set.weight
  | .look _ => 32
  | .both a b => a.weight + b.weight
  | .either a b => a.weight + b.weight + 64
  | .repeated inner least most =>
    let copies := match most with
      | some m => max m least
      | none => least + 1
    let copies := if inner.isEmptyOnly then min copies 1 else copies
    32 + copies * (inner.weight + 32)

end Tree
end ClassForge.Pattern
