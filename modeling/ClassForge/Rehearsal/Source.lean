import ClassForge.Source

/-!
A source that follows a script. It hands out names, and keeps a log of all that happens to them.
-/
namespace ClassForge.Rehearsal

structure Log where
  yielded : List String := []
  retained : List String := []
  replaced : List (String × Artifact) := []
  closeCount : Nat := 0
  deriving DecidableEq, Repr

def Log.artifact? (l : Log) (name : String) : Option Artifact := l.replaced.lookup name

structure Setting where
  names : List String
  broken : Option String := none
  failingReplace : List String := []
  failingClose : Bool := false
  deriving DecidableEq, Repr

namespace Setting

def replace (s : Setting) (name : String) (a : Artifact) (l : Log) : Except RunError Unit × Log :=
  if s.failingReplace.contains name then
    (.error (.io ("replacing " ++ name) (.given "replace failed")), l)
  else (.ok (), { l with replaced := l.replaced ++ [(name, a)] })

def close (s : Setting) (l : Log) : Except RunError Unit × Log :=
  (if s.failingClose then .error (.io "closing mock source" (.given "close failed")) else .ok (),
    { l with closeCount := l.closeCount + 1 })

def container (s : Setting) : Container Log String where
  name := id
  handOut name l := { l with yielded := l.yielded ++ [name] }
  retain name l := { l with retained := l.retained ++ [name] }
  replace := s.replace
  close := s.close

def item (s : Setting) (name : String) : Except RunError String :=
  if s.broken == some name then .error (.malformed (.stated ("unreadable entry " ++ name)))
  else .ok name

def source (s : Setting) : Source Log String where
  container := s.container
  pending := .ofList (s.names.map s.item)
  store := {}

end Setting
end ClassForge.Rehearsal
