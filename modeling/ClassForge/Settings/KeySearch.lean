import ClassForge.Text.Blank
import ClassForge.Text.Cut
import ClassForge.Text.Utf8

/-!
Where a key stands in a configuration text, as a number of bytes. The search begins behind the
first occurrence of the section's name in brackets; a line holds the key when the key begins it and
a blank, a tab or an equals sign follows. Every line counts one byte for its line break, whatever
the break is.
-/
namespace ClassForge.Settings.KeySearch
open Text

def inLine? (key line : List Char) : Option Nat :=
  let body := trimLeft line
  match key.isPrefixOf? body with
  | some (c :: _) =>
    if c == ' ' || c == '=' || c == '\t' then some (Utf8.size line - Utf8.size body) else none
  | _ => none

/-- The place of the key in the first line that holds it; the first line begins at `offset`. -/
def inLines? (key : List Char) (offset : Nat) : List (List Char) → Option Nat
  | [] => none
  | line :: rest =>
    match inLine? key line with
    | some place => some (offset + place)
    | none => inLines? key (offset + Utf8.size line + 1) rest

def start? (content : List Char) : List String → Option (Nat × List Char)
  | [] => some (0, content)
  | section_ :: _ =>
    let header := '[' :: section_.toList ++ [']']
    (around header content).map fun (before, after) =>
      (Utf8.size before + Utf8.size header, after)

def offset? (content : String) (path : List String) (key : String) : Option Nat := do
  let (begins, rest) ← start? content.toList path
  inLines? key.toList begins (lines rest)

end ClassForge.Settings.KeySearch
