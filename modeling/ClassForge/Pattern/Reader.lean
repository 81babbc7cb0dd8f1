import ClassForge.Text.Blank

/-!
Reading of a pattern's text: the characters that are left, the flags in force and the group names
used so far. With the spaced flag, blank characters and comments between the parts are skipped.
-/
namespace ClassForge.Pattern

inductive Fault where
  | unexpectedEnd
  | groupNotOpened
  | groupNotClosed
  | groupName
  | groupNameRepeated (name : String)
  | lookAround
  | flags
  | nothingToRepeat
  | repetition
  | escape (c : Char)
  | hexEscape
  | backreference
  | boundaryName
  | unknownProperty (name : String)
  | classNotClosed
  | classMember
  | classRange
  | needsUnicode
  | nestedTooDeep
  | tooLarge
  deriving DecidableEq, Repr

def Fault.message : Fault → String
  | .unexpectedEnd => "the pattern ends too early"
  | .groupNotOpened => "a group is closed that was not opened"
  | .groupNotClosed => "a group is not closed"
  | .groupName => "a group has no valid name"
  | .groupNameRepeated n => s!"two groups are named `{n}`"
  | .lookAround => "looking ahead and behind is not supported"
  | .flags => "the flags are not valid"
  | .nothingToRepeat => "there is nothing to repeat"
  | .repetition => "the counts of a repetition are not valid"
  | .escape c => s!"`{c}` cannot be escaped"
  | .hexEscape => "the number does not stand for a character"
  | .backreference => "references to groups are not supported"
  | .boundaryName => "the word boundary is not known"
  | .unknownProperty n => s!"the property `{n}` is not known"
  | .classNotClosed => "a character class is not closed"
  | .classMember => "an item cannot stand in a character class"
  | .classRange => "a range of characters is not valid"
  | .needsUnicode => "an item needs Unicode to be on"
  | .nestedTooDeep => "the pattern is nested too deeply"
  | .tooLarge => "the pattern is too large"

structure Flags where
  ignoreCase : Bool := false
  multiLine : Bool := false
  dotMatchesAll : Bool := false
  anyLineEnd : Bool := false
  spaced : Bool := false
  unicode : Bool := true
  deriving DecidableEq, Repr

structure Reader where
  rest : List Char
  flags : Flags := {}
  names : List String := []

namespace Reader

private def afterComment : List Char → List Char
  | [] => []
  | c :: cs => if c == '\n' then cs else afterComment cs

private theorem afterComment_length (cs : List Char) : (afterComment cs).length ≤ cs.length := by
  induction cs with
  | nil => simp [afterComment]
  | cons c cs ih =>
    rw [afterComment, List.length_cons]
    split <;> omega

/-- The text without blank characters and comments at its start. -/
def skipSpace : List Char → List Char
  | [] => []
  | c :: cs =>
    if Text.isBlank c then skipSpace cs
    else if c == '#' then skipSpace (afterComment cs)
    else c :: cs
termination_by cs => cs.length
decreasing_by
  · simp
  · have := afterComment_length cs; simp; omega

def skipped (r : Reader) (cs : List Char) : List Char :=
  if r.flags.spaced then skipSpace cs else cs

def skip (r : Reader) : Reader := { r with rest := r.skipped r.rest }

def jump (r : Reader) (rest : List Char) : Reader := { r with rest }

end Reader
end ClassForge.Pattern
