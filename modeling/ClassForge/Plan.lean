import ClassForge.Json.Basic
import ClassForge.Plugin
import ClassForge.Settings.Model

/-!
Plans. Declared plugins do not change class files; they put down what they would contribute to a
type, and the made artifact is the list of that as a document.
-/
namespace ClassForge

structure Contribution where
  plugin : String
  description : String
  deriving DecidableEq, Repr

structure Plan where
  target : String
  formatVersion : String
  entryPoint : EntryPointKind
  contributions : List Contribution
  /-- The plugins that need an initializer when the type is loaded. -/
  liveInitializers : List String
  deriving DecidableEq, Repr

namespace Plan

def toJson (p : Plan) : Json.Value :=
  .object [
    ("target", .text p.target),
    ("class_file_version", .text p.formatVersion),
    ("entry_point", .text p.entryPoint.keyword),
    ("contributions", .list (p.contributions.map fun c =>
      .object [("plugin", .text c.plugin), ("description", .text c.description)])),
    ("live_initializers", .list (p.liveInitializers.map .text))]

end Plan

structure PlanBuilder where
  target : TypeName
  version : FormatVersion
  entryPoint : EntryPointKind
  contributions : List Contribution := []
  live : List String := []
  deriving DecidableEq, Repr

namespace PlanBuilder

def contribute (plugin description : String) (b : PlanBuilder) : PlanBuilder :=
  { b with contributions := b.contributions ++ [⟨plugin, description⟩] }

def registerLive (plugin : String) (b : PlanBuilder) : PlanBuilder :=
  { b with live := b.live ++ [plugin] }

def plan (b : PlanBuilder) : Plan where
  target := b.target.name
  formatVersion := b.version.render
  entryPoint := b.entryPoint
  contributions := b.contributions
  liveInitializers := b.live

def artifact (b : PlanBuilder) : Artifact :=
  (Artifact.ofBytes b.target (Text.Utf8.encode (Json.render b.plan.toJson))).withLiveInitializers
    "$SmeltInitializer" (b.live.map ("initializer registered by " ++ ·))

instance : Builder PlanBuilder := ⟨fun b => .ok b.artifact⟩

end PlanBuilder

def planEntryPoint {σ : Type} (kind : EntryPointKind) (t : TypeName) (v : FormatVersion)
    (_ : Locator) (s : σ) : Except RunError PlanBuilder × σ :=
  (.ok ⟨t, v, kind, [], []⟩, s)

end ClassForge
