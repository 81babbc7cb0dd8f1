import ClassForge.Artifact
import ClassForge.Failure
import ClassForge.FileTree
import ClassForge.Selector

/-!
Plugins and their composition. A plugin says for which types it is, and puts its contribution on top
of a builder; a call of it may also end in a panic. What plugins keep between calls is a state that
every call takes and hands on. Plugins are composed by trees, which are flattened to the plugins at
their leaves.
-/
namespace ClassForge

/-- How a call ends. The message of a panic is there if the panic carries a text. -/
inductive Call (α : Type) where
  | returned (value : α)
  | panicked (message : Option String)
  deriving Repr

abbrev Locator := String → Except OsFault (Option Bytes)

namespace Locator

def nowhere : Locator := fun _ => .ok none

def directory (tree : FileTree) (workingDirectory root : String) : Locator := fun name =>
  match tree.read workingDirectory (FileTree.join root (TypeName.mk name).entryName) with
  | .ok content => .ok (some content)
  | .error .notFound => .ok none
  | .error fault => .error fault

end Locator

class Builder (B : Type) where
  make : B → Except RunError Artifact

structure Plugin (σ B : Type) where
  name : String
  selects : TypeName → σ → Call Bool × σ
  apply : B → TypeName → Locator → σ → Call (Except PluginFailure B) × σ

variable {σ B : Type}

namespace Plugin

/-- A plugin for nothing, which fails when it is applied all the same. -/
def noop : Plugin σ B where
  name := "no-op"
  selects _ s := (.returned false, s)
  apply _ _ _ s := (.returned (.error .nonOperational), s)

def ofMatcher (name : String) (m : Matcher) (transform : B → TypeName → Except PluginFailure B) :
    Plugin σ B where
  name := name
  selects t s := (.returned (m.accepts t), s)
  apply b t _ s := (.returned (transform b t), s)

end Plugin

inductive PluginTree (σ B : Type) where
  | noop
  | single (p : Plugin σ B)
  | compound (members : List (PluginTree σ B))

namespace PluginTree

mutual

/-- The plugins at the leaves, in order, without those for nothing. -/
def flatten : PluginTree σ B → List (Plugin σ B)
  | .noop => []
  | .single p => [p]
  | .compound members => flattenAll members

def flattenAll : List (PluginTree σ B) → List (Plugin σ B)
  | [] => []
  | t :: ts => flatten t ++ flattenAll ts

end

end PluginTree

structure Compound (σ B : Type) where
  plugins : List (Plugin σ B)

namespace Compound

def ofTrees (trees : List (PluginTree σ B)) : Compound σ B := ⟨PluginTree.flattenAll trees⟩

def names (c : Compound σ B) : List String := c.plugins.map (·.name)

/-- Whether any of the plugins is for the type; the first that is ends the search. -/
def anySelects (t : TypeName) : List (Plugin σ B) → σ → Call Bool × σ
  | [], s => (.returned false, s)
  | p :: ps, s =>
    match p.selects t s with
    | (.returned false, s) => anySelects t ps s
    | other => other

/-- Applies the plugins that are for the type, each to what the one before it made, up to the first
failure. -/
def applyInTurn (t : TypeName) (l : Locator) :
    List (Plugin σ B) → B → σ → Call (Except PluginFailure B) × σ
  | [], b, s => (.returned (.ok b), s)
  | p :: ps, b, s =>
    match p.selects t s with
    | (.panicked m, s) => (.panicked m, s)
    | (.returned false, s) => applyInTurn t l ps b s
    | (.returned true, s) =>
      match p.apply b t l s with
      | (.returned (.ok b), s) => applyInTurn t l ps b s
      | other => other

def toPlugin (c : Compound σ B) : Plugin σ B where
  name := "compound"
  selects t s := anySelects t c.plugins s
  apply b t l s := applyInTurn t l c.plugins b s

end Compound

namespace PluginTree

def toPlugin : PluginTree σ B → Plugin σ B
  | .noop => .noop
  | .single p => p
  | .compound members => (Compound.ofTrees members).toPlugin

def members? : PluginTree σ B → Option (List (Plugin σ B))
  | .compound members => some (flattenAll members)
  | _ => none

def isNoop : PluginTree σ B → Bool
  | .noop => true
  | _ => false

end PluginTree
end ClassForge
