import ClassForge.Selector

/-!
The settings of the tool: those of a run, of the log, of the source, and the declared plugins. Every
setting but a plugin's name has a value of its own when it is not given.
-/
namespace ClassForge

inductive EntryPointKind where
  | rebase
  | redefine
  | redefineLocal
  | decorate
  deriving DecidableEq, Repr, Inhabited

namespace EntryPointKind

def keyword : EntryPointKind → String
  | .rebase => "rebase"
  | .redefine => "redefine"
  | .redefineLocal => "redefine-local"
  | .decorate => "decorate"

def all : List EntryPointKind := [.rebase, .redefine, .redefineLocal, .decorate]

def ofKeyword? (text : String) : Option EntryPointKind := all.find? (·.keyword == text)

end EntryPointKind

structure EngineSettings where
  formatVersion : String := "17"
  entryPoint : EntryPointKind := .rebase
  /-- The first failure of a plugin ends the run. -/
  failFast : Bool := false
  /-- The listener hears of the failure that ends a run. -/
  notifyOnAbort : Bool := true
  /-- A made type that needs a live initializer ends the run. -/
  failOnLiveInitializer : Bool := true
  deriving DecidableEq, Repr, Inhabited

structure LogSettings where
  level : String := "info"
  deriving DecidableEq, Repr, Inhabited

structure SourceSettings where
  /-- Entries whose names begin so are never taken for types. -/
  skipPrefixes : List String := ["META-INF/"]
  deriving DecidableEq, Repr, Inhabited

structure PluginDeclaration where
  name : String
  enabled : Bool := true
  description : Option String := none
  selector : Declared := .everything
  live : Bool := false
  /-- A file that gives the description, the selector and the live mark instead. -/
  manifest : Option String := none
  deriving Repr, Inhabited

structure Settings where
  engine : EngineSettings := {}
  logging : LogSettings := {}
  source : SourceSettings := {}
  plugins : List PluginDeclaration := []
  deriving Repr, Inhabited

namespace Settings

def keys : List String := ["engine", "logging", "source", "plugins"]

def engineKeys : List String :=
  ["class_file_version", "entry_point", "fail_fast", "notify_on_abort", "fail_on_live_initializer"]

def loggingKeys : List String := ["level"]

def sourceKeys : List String := ["skip_prefixes"]

def pluginKeys : List String :=
  ["name", "enabled", "description", "matcher", "live_initializer", "manifest"]

end Settings
end ClassForge
