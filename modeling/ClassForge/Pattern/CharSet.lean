import ClassForge.Text.Blank
import ClassForge.Unicode.Category
import ClassForge.Unicode.Fold
import ClassForge.Unicode.Property
import ClassForge.Unicode.Script

/-!
Sets of characters as expressions, and membership in them. A folded set holds every character that
is the same but for case as one of its own.
-/
namespace ClassForge.Pattern
open Unicode

inductive CharProperty where
  | any
  | assigned
  | category (name : String)
  | script (name : String)
  | named (name : String)
  | blank
  | word
  deriving DecidableEq, Repr

/-- Letters, marks, decimal digits, connecting punctuation and the joiners. -/
def isWordChar (c : Char) : Bool :=
  let category := Category.ofChar c
  "M".isPrefixOf category || category == "Nd" || category == "Pc" ||
    Property.isAlphabetic c || Property.isJoinControl c

def CharProperty.holds : CharProperty → Char → Bool
  | .any, _ => true
  | .assigned, c => Category.ofChar c != "Cn"
  | .category name, c => Category.contains name c
  | .script name, c => Script.ofChar c == name
  | .named name, c => Property.contains name c
  | .blank, c => Text.isBlank c
  | .word, c => isWordChar c

def otherCase (c : Char) : Char :=
  if c.isUpper then c.toLower else if c.isLower then c.toUpper else c

inductive CharSet where
  | none
  | range (first last : Char)
  | property (p : CharProperty)
  | union (a b : CharSet)
  | inter (a b : CharSet)
  | compl (a : CharSet)
  | folded (a : CharSet)
  /-- As `folded`, for the letters from A to Z alone. -/
  | latinFolded (a : CharSet)
  deriving DecidableEq, Repr

namespace CharSet

def mem : CharSet → Char → Bool
  | .none, _ => false
  | .range first last, c => first ≤ c && c ≤ last
  | .property p, c => p.holds c
  | .union a b, c => a.mem c || b.mem c
  | .inter a b, c => a.mem c && b.mem c
  | .compl a, c => !a.mem c
  | .folded a, c => (Fold.orbit c).any fun d => a.mem d
  | .latinFolded a, c => a.mem c || a.mem (otherCase c)

def single (c : Char) : CharSet := .range c c

def ofChars (cs : List Char) : CharSet := cs.foldr (fun c s => .union (single c) s) .none

def ofRanges (rs : List (Char × Char)) : CharSet :=
  rs.foldr (fun r s => .union (.range r.1 r.2) s) .none

def unions (sets : List CharSet) : CharSet := sets.foldl .union .none

def diff (a b : CharSet) : CharSet := .inter a (.compl b)

def symmDiff (a b : CharSet) : CharSet := .union (a.diff b) (b.diff a)

/-- About how many bytes a matcher keeps for the set. -/
def weight : CharSet → Nat
  | .none => 32
  | .range first last => if first == last then 32 * first.utf8Size else 60
  | .property .word => 50000
  | .property .any => 400
  | .property _ => 20000
  | .union a b => a.weight + b.weight
  | .inter a b => min a.weight b.weight
  | .compl a => a.weight + 300
  | .folded a => 2 * a.weight
  | .latinFolded a => 2 * a.weight

end CharSet
end ClassForge.Pattern
