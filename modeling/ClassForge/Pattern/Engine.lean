import ClassForge.Pattern.Parser
import ClassForge.Selector

/-!
The pattern engine of this library: patterns are read as trees, and a text is searched by sets of
places.
-/
namespace ClassForge.Pattern

scoped instance engine : PatternEngine where
  compile text :=
    match parse text with
    | .ok tree => .ok tree.found
    | .error fault => .error fault.message

end ClassForge.Pattern
