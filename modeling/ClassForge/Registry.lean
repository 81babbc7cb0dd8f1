import ClassForge.Manifest
import ClassForge.Plugin

/-!
Registries of plugins. Entries stand in the order in which their names were first registered; a name
that is registered again keeps its place. Assembling makes plugins of the enabled entries.
-/
namespace ClassForge

inductive PluginStatus where
  | enabled
  | disabled
  /-- Declared, but with a manifest that cannot be used. -/
  | notConfigured
  deriving DecidableEq, Repr

namespace PluginStatus

def keyword : PluginStatus → String
  | .enabled => "enabled"
  | .disabled => "disabled"
  | .notConfigured => "not-configured"

def all : List PluginStatus := [.enabled, .disabled, .notConfigured]

def ofKeyword? (text : String) : Option PluginStatus := all.find? (·.keyword == text)

end PluginStatus

abbrev PluginFactory (σ B : Type) := Manifest → Except RunError (PluginTree σ B)

/-- A registered plugin. One that is registered without a status is enabled. -/
structure RegistryEntry (σ B : Type) where
  manifest : Manifest
  status : PluginStatus := .enabled
  factory : Option (PluginFactory σ B)

def RegistryEntry.name {σ B : Type} (e : RegistryEntry σ B) : String := e.manifest.name

/-- The entries, and the place of each name among them. -/
structure Registry (σ B : Type) where
  entries : List (RegistryEntry σ B) := []
  index : List (String × Nat) := []

namespace Registry
variable {σ B : Type}

def size (r : Registry σ B) : Nat := r.entries.length

/-- A new name comes last; the entry of a known name is replaced at its place. -/
def register (e : RegistryEntry σ B) (r : Registry σ B) : Registry σ B :=
  match r.index.lookup e.name with
  | some i => { r with entries := r.entries.set i e }
  | none => ⟨r.entries ++ [e], (e.name, r.entries.length) :: r.index⟩

def ofEntries (es : List (RegistryEntry σ B)) : Registry σ B :=
  es.foldl (fun r e => r.register e) {}

def names (r : Registry σ B) : List String := r.entries.map (·.name)

def get? (r : Registry σ B) (name : String) : Option (RegistryEntry σ B) :=
  (r.index.lookup name).bind (r.entries[·]?)

def sorted (r : Registry σ B) : List (RegistryEntry σ B) :=
  r.entries.mergeSort fun a b => !(b.name < a.name)

end Registry

/-- The plugin of an entry; one that is not enabled has none, and needs no factory. -/
def RegistryEntry.instantiate {σ B : Type} (e : RegistryEntry σ B) :
    Except RunError (Option (PluginTree σ B)) :=
  match e.status, e.factory with
  | .enabled, some make => (make e.manifest).map some
  | .enabled, none => .error (.configuration (.noFactory e.name))
  | _, _ => .ok none

namespace Registry
variable {σ B : Type}

def named (r : Registry σ B) (name : String) : Except RunError (RegistryEntry σ B) :=
  match r.get? name with
  | some e => .ok e
  | none => .error (.configuration (.unknownPlugin name))

def assemble (r : Registry σ B) (names : List String) : Except RunError (Compound σ B) := do
  let plugins ← names.mapM fun name => do (← r.named name).instantiate
  return .ofTrees (plugins.filterMap id)

def assembleAll (r : Registry σ B) : Except RunError (Compound σ B) := do
  let plugins ← r.entries.mapM RegistryEntry.instantiate
  return .ofTrees (plugins.filterMap id)

end Registry
end ClassForge
