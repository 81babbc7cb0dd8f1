import ClassForge.Number.Digits
import ClassForge.Unicode.Category
import ClassForge.Unicode.Property

/-!
Texts in quotation marks, for messages. A character is written by its number when it would not show
by itself: controls, formats, unassigned characters, separators other than the space, and marks
that join the character before them.
-/
namespace ClassForge.Text.Quoted
open Unicode

def shows (c : Char) : Bool :=
  let category := Category.ofChar c
  c == ' ' || !("C".isPrefixOf category || "Z".isPrefixOf category || Property.isGraphemeExtend c)

def byNumber (c : Char) : List Char :=
  "\\u\x7b".toList ++ Number.render 16 c.toNat ++ ['\x7d']

def escapeChar (c : Char) : List Char :=
  if c = '"' then ['\\', '"']
  else if c = '\\' then ['\\', '\\']
  else if c = '\n' then ['\\', 'n']
  else if c = '\r' then ['\\', 'r']
  else if c = '\t' then ['\\', 't']
  else if c.toNat = 0 then ['\\', '0']
  else if shows c then [c]
  else byNumber c

def quote (s : String) : String := String.ofList ('"' :: s.toList.flatMap escapeChar ++ ['"'])

def quoteList (texts : List String) : String :=
  "[" ++ String.intercalate ", " (texts.map quote) ++ "]"

end ClassForge.Text.Quoted
