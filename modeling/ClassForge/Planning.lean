import ClassForge.Engine
import ClassForge.Plan
import ClassForge.Registry
import ClassForge.Source.Archive

/-!
Planning of an archive. The settings declare plugins, which are registered with their manifests; the
engine that the settings describe is run over the archive's files, and its ledger shows a plan for
each type that some plugin is for. Scanning only tells which types the entries hold.
-/
namespace ClassForge

abbrev FileReader := String → Except OsFault Bytes

namespace Manifest

def load (read : FileReader) (path : String) : Except RunError Manifest :=
  let failed (cause : Detail) : RunError := .io ("reading plugin manifest " ++ path) cause
  match read path with
  | .error fault => .error (failed fault.detail)
  | .ok bytes =>
    match Text.Utf8.decode? bytes with
    | none => .error (failed (.system "stream did not contain valid UTF-8"))
    | some cs => (parse (String.ofList cs)).mapError .configuration

/-- The manifest of a declared plugin. One that is read from a file must have the same name. -/
def declared (read : FileReader) (p : PluginDeclaration) : Except RunError Manifest :=
  match p.manifest with
  | none => .ok (ofDeclaration p)
  | some path =>
    match load read path with
    | .error err => .error err
    | .ok m =>
      if m.name = p.name then .ok m
      else .error (.configuration (.manifestOfOther path m.name p.name))

/-- What a plugin contributes: its description or, for want of one, its name and version. -/
def contribution (m : Manifest) : String :=
  if m.description.isEmpty then m.name ++ " v" ++ m.version else m.description

end Manifest

namespace Planning
variable {σ : Type}

def contribute (m : Manifest) (b : PlanBuilder) : PlanBuilder :=
  let b := b.contribute m.name m.contribution
  if m.live then b.registerLive m.name else b

def factory [PatternEngine] : PluginFactory σ PlanBuilder := fun m =>
  match m.selector.compile with
  | .error fault => .error (.configuration fault)
  | .ok matcher => .ok (.single (.ofMatcher m.name matcher fun b _ => .ok (contribute m b)))

/-- A plugin whose manifest cannot be used is registered under its own data. -/
def entry [PatternEngine] (read : FileReader) (p : PluginDeclaration) :
    RegistryEntry σ PlanBuilder :=
  match Manifest.declared read p with
  | .ok m => ⟨m, if p.enabled then .enabled else .disabled, some factory⟩
  | .error _ => ⟨.ofDeclaration p, .notConfigured, some factory⟩

def registry [PatternEngine] (read : FileReader) (s : Settings) : Registry σ PlanBuilder :=
  .ofEntries (s.plugins.map (entry read))

/-- The engine that settings describe. Without a selection every enabled plugin runs. -/
def engine (s : Settings) (r : Registry σ PlanBuilder) (selected : List String) :
    Except RunError (Engine (Unit × TypePool.Cache) σ PlanBuilder) := do
  let plugins ← if selected.isEmpty then r.assembleAll else r.assemble selected
  let draft : EngineDraft (Unit × TypePool.Cache) σ PlanBuilder := {
    entryPoint := some (planEntryPoint s.engine.entryPoint)
    pool := some (.cached (.classFiles s.source.skipPrefixes))
    plugins := some (plugins.plugins.map .single) }
  let draft ← (draft.configure s.engine).mapError .configuration
  draft.build.mapError .configuration

/-- Opens an archive. What can be opened but not read, such as a directory, is malformed. -/
def openArchive (read : FileReader) (path : String) : Except RunError Ledger :=
  match read path with
  | .ok bytes => Ledger.ofArchive bytes
  | .error .isDirectory => .error (Ledger.unreadable OsFault.isDirectory.message)
  | .error fault => .error (.io ("opening archive " ++ path) fault.detail)

structure Result where
  report : Report
  failures : List FailureRecord
  ledger : Ledger
  deriving DecidableEq, Repr

def runOver (e : Engine (Unit × TypePool.Cache) Unit PlanBuilder) (ledger : Ledger) :
    Except RunError Result := do
  let ran := e.run (.ofLedger ledger) ((), []) ()
  let report ← ran.result
  return ⟨report, (Summary.ofNotifications (notifications ran.events)).failures, ran.store⟩

def plan [PatternEngine] (read : FileReader) (s : Settings) (archive : String)
    (selected : List String) : Except RunError Result := do
  let e ← engine s (registry read s) selected
  runOver e (← openArchive read archive)

structure ScanLine where
  entry : String
  type? : Option TypeName
  deriving DecidableEq, Repr

section
variable {S E : Type}

/-- Tells the type of one element after the other; all of them are kept. -/
def scanAll (pool : TypePool Unit) (c : Container S E) :
    Supply S E → S → Except RunError (List ScanLine × S)
  | .exhausted, store => .ok ([], store)
  | .asking look, store => scanAll pool c (look store) store
  | .item (.error err) _, _ => .error err
  | .item (.ok x) rest, store => do
    let name := c.name x
    let (found, _) := pool.describe name ()
    let (lines, store) ← scanAll pool c rest (c.retain x (c.handOut x store))
    return (⟨name, found.type?⟩ :: lines, store)

/-- Tells the type of every element of a source. One that cannot be read leaves it unclosed. -/
def scanSource (pool : TypePool Unit) (source : Source S E) : Except RunError (List ScanLine) := do
  let (lines, store) ← scanAll pool source.container source.pending source.store
  let () ← (source.container.close store).1
  return lines

end

def scan (read : FileReader) (s : Settings) (archive : String) :
    Except RunError (List ScanLine) := do
  scanSource (.classFiles s.source.skipPrefixes) (.ofLedger (← openArchive read archive))

end Planning
end ClassForge
