import ClassForge.Number.Digits

/-!
Documents of texts, lists and objects, as JSON. They are written with one member a line, each level
indented by two blanks more; an empty list or object is a pair of brackets. Quotes, backslashes and
controls are escaped, all else stands for itself.
-/
namespace ClassForge.Json

inductive Value where
  | text (s : String)
  | list (items : List Value)
  | object (members : List (String × Value))
  deriving Repr, Inhabited

def escape (c : Char) : List Char :=
  if c = '"' then ['\\', '"']
  else if c = '\\' then ['\\', '\\']
  else if c = '\x08' then ['\\', 'b']
  else if c = '\x0c' then ['\\', 'f']
  else if c = '\n' then ['\\', 'n']
  else if c = '\r' then ['\\', 'r']
  else if c = '\t' then ['\\', 't']
  else if c.toNat < 32 then
    ['\\', 'u', '0', '0', Number.digitChar (c.toNat / 16), Number.digitChar (c.toNat % 16)]
  else [c]

def quoted (s : String) : List Char := '"' :: s.toList.flatMap escape ++ ['"']

def newLine (depth : Nat) : List Char := '\n' :: List.replicate (2 * depth) ' '

mutual

/-- A value whose lines after the first are indented by `depth` levels. -/
def layOut (depth : Nat) : Value → List Char
  | .text s => quoted s
  | .list [] => ['[', ']']
  | .list (v :: vs) =>
    '[' :: newLine (depth + 1) ++ layOut (depth + 1) v ++ layOutItems (depth + 1) vs ++
      newLine depth ++ [']']
  | .object [] => ['\x7b', '\x7d']
  | .object ((key, v) :: ms) =>
    '\x7b' :: newLine (depth + 1) ++ quoted key ++ [':', ' '] ++ layOut (depth + 1) v ++
      layOutMembers (depth + 1) ms ++ newLine depth ++ ['\x7d']

def layOutItems (depth : Nat) : List Value → List Char
  | [] => []
  | v :: vs => ',' :: newLine depth ++ layOut depth v ++ layOutItems depth vs

def layOutMembers (depth : Nat) : List (String × Value) → List Char
  | [] => []
  | (key, v) :: ms =>
    ',' :: newLine depth ++ quoted key ++ [':', ' '] ++ layOut depth v ++ layOutMembers depth ms

end

def render (v : Value) : String := String.ofList (layOut 0 v)

end ClassForge.Json
