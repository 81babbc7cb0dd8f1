/-!
Styles of output on a terminal. A styled text stands between the code of its style and the reset
code; after every reset inside it, the style begins anew.
-/
namespace ClassForge.Console

inductive Style where
  | success
  | warning
  | failure
  | heading
  | muted
  deriving DecidableEq, Repr

def escapeCode (number : String) : String := "\x1b[" ++ number ++ "m"

def reset : String := escapeCode "0"

namespace Style

def code : Style → String
  | .success => escapeCode "32"
  | .warning => escapeCode "33"
  | .failure => escapeCode "31"
  | .heading => escapeCode "1"
  | .muted => escapeCode "2"

/-- After every reset, the style begins anew. -/
def resume (style : Style) : List Char → List Char
  | '\x1b' :: '[' :: '0' :: 'm' :: cs =>
    reset.toList ++ style.code.toList ++ style.resume cs
  | c :: cs => c :: style.resume cs
  | [] => []

def paint (style : Style) (color : Bool) (text : String) : String :=
  if color then
    style.code ++ String.ofList (style.resume text.toList) ++ reset
  else text

end Style

/-- Color is used only on a terminal, and never when plain output is asked for. -/
def usesColor (plain terminal : Bool) : Bool := !plain && terminal

end ClassForge.Console
