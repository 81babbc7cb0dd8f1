import ClassForge.Failure
import ClassForge.Text.Cut
import ClassForge.TypeName

/-!
Selectors say which types a plugin is for, by their names alone. As it is written, a selector holds
patterns as texts; compiling makes a search of each and refuses the selector when one is no pattern.
Both forms are one type, with the form of a pattern as a parameter. Which texts are patterns is for
the pattern engine to say, and nothing here depends on which engine it is.
-/
namespace ClassForge

inductive Selector (π : Type) where
  | everything
  | nothing
  | named (name : String)
  | startsWith (start : String)
  | endsWith (stop : String)
  | contains (part : String)
  | matching (pattern : π)
  /-- Types of this package itself, not of the packages below it. -/
  | inPackage (package : String)
  | allOf (members : List (Selector π))
  | anyOf (members : List (Selector π))
  | except (member : Selector π)
  deriving Repr, Inhabited

/-- Makes a search of a pattern: what it says of a text is whether the pattern is found in it. A
pattern that it refuses gets a message instead. -/
class PatternEngine where
  compile : String → Except String (String → Bool)

structure NamePattern where
  text : String
  found : String → Bool

namespace NamePattern

def ofText [PatternEngine] (text : String) : Except Detail NamePattern :=
  match PatternEngine.compile text with
  | .ok found => .ok ⟨text, found⟩
  | .error message => .error (.pattern message)

end NamePattern

abbrev Declared := Selector String
abbrev Matcher := Selector NamePattern

namespace Selector

mutual

/-- Every pattern in its new form; the first one without stops everything. -/
def traverse {π ρ ε : Type} (f : π → Except ε ρ) : Selector π → Except ε (Selector ρ)
  | .everything => .ok .everything
  | .nothing => .ok .nothing
  | .named n => .ok (.named n)
  | .startsWith s => .ok (.startsWith s)
  | .endsWith s => .ok (.endsWith s)
  | .contains p => .ok (.contains p)
  | .matching p => (f p).map .matching
  | .inPackage p => .ok (.inPackage p)
  | .allOf ms => (traverseAll f ms).map .allOf
  | .anyOf ms => (traverseAll f ms).map .anyOf
  | .except m => (traverse f m).map .except

def traverseAll {π ρ ε : Type} (f : π → Except ε ρ) :
    List (Selector π) → Except ε (List (Selector ρ))
  | [] => .ok []
  | m :: ms =>
    match traverse f m with
    | .error e => .error e
    | .ok m' => (traverseAll f ms).map (m' :: ·)

end

def compile [PatternEngine] (s : Declared) : Except ConfigFault Matcher :=
  s.traverse fun text => (NamePattern.ofText text).mapError (.pattern text)

mutual

def accepts (t : TypeName) : Matcher → Bool
  | .everything => true
  | .nothing => false
  | .named n => t.name == n
  | .startsWith s => s.toList.isPrefixOf t.name.toList
  | .endsWith s => s.toList.isSuffixOf t.name.toList
  | .contains p => Text.occurs p.toList t.name.toList
  | .matching p => p.found t.name
  | .inPackage p => t.package?.getD "" == p
  | .allOf ms => acceptedByAll t ms
  | .anyOf ms => acceptedByAny t ms
  | .except m => !accepts t m

def acceptedByAll (t : TypeName) : List Matcher → Bool
  | [] => true
  | m :: ms => accepts t m && acceptedByAll t ms

def acceptedByAny (t : TypeName) : List Matcher → Bool
  | [] => false
  | m :: ms => accepts t m || acceptedByAny t ms

end

theorem acceptedByAll_eq (t : TypeName) (ms : List Matcher) :
    acceptedByAll t ms = ms.all (accepts t) := by
  induction ms with
  | nil => rfl
  | cons m ms ih => rw [acceptedByAll, ih, List.all_cons]

theorem acceptedByAny_eq (t : TypeName) (ms : List Matcher) :
    acceptedByAny t ms = ms.any (accepts t) := by
  induction ms with
  | nil => rfl
  | cons m ms ih => rw [acceptedByAny, ih, List.any_cons]

variable {π : Type}

/-- Both; the members of a conjunction on the left are kept side by side. -/
def and (m other : Selector π) : Selector π :=
  match m with
  | .allOf ms => .allOf (ms ++ [other])
  | _ => .allOf [m, other]

/-- Either; the members of a disjunction on the left are kept side by side. -/
def or (m other : Selector π) : Selector π :=
  match m with
  | .anyOf ms => .anyOf (ms ++ [other])
  | _ => .anyOf [m, other]

def keywords : List String :=
  ["any", "none", "named", "name_starts_with", "name_ends_with", "name_contains", "name_matches",
    "in_package", "and", "or", "not"]

def keyword : Selector π → String
  | .everything => "any"
  | .nothing => "none"
  | .named _ => "named"
  | .startsWith _ => "name_starts_with"
  | .endsWith _ => "name_ends_with"
  | .contains _ => "name_contains"
  | .matching _ => "name_matches"
  | .inPackage _ => "in_package"
  | .allOf _ => "and"
  | .anyOf _ => "or"
  | .except _ => "not"

end Selector
end ClassForge
