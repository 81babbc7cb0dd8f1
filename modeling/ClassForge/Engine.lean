import ClassForge.Listener
import ClassForge.Plugin
import ClassForge.Settings.Model
import ClassForge.Source
import ClassForge.TypePool

/-!
Runs over a source. Every element is resolved to a type, a builder is seeded for it, and the plugins
are applied in order; the made type then takes the element's place. All that a run asks of others,
and all that it tells, is kept in order as its events.
-/
namespace ClassForge

inductive FailurePolicy where
  /-- The failure is reported, the element is kept, and the run goes on. -/
  | proceed
  /-- The first failure ends the run. -/
  | failFast (notify : Bool)
  deriving DecidableEq, Repr

inductive InitializerPolicy where
  | permit
  | reject
  deriving DecidableEq, Repr

inductive Event (B : Type) where
  | received (name : String)
  | unreadable
  | exhausted
  | described (name : String)
  | seeded (type : TypeName) (version : FormatVersion)
  /-- Plugins are counted from zero. -/
  | asked (plugin : Nat) (type : TypeName)
  | applied (plugin : Nat) (builder : B) (type : TypeName)
  | made (builder : B)
  | replaced (name : String) (artifact : Artifact) (written : Bool)
  | retained (name : String)
  | notified (n : Notification)
  | closed

structure Engine (ρ σ B : Type) where
  version : FormatVersion
  entryPoint : TypeName → FormatVersion → Locator → σ → Except RunError B × σ
  pool : TypePool ρ
  locator : Locator
  plugins : List (Plugin σ B)
  failurePolicy : FailurePolicy
  initializerPolicy : InitializerPolicy

variable {ρ σ B S E : Type}

inductive Attempt (B : Type) where
  | passed
  | applied (builder : B)
  | failed (failure : PluginFailure)

def panicText (message : Option String) : String := message.getD "non-string panic payload"

/-- Asks a plugin and, if it is for the type, applies it. A panic is a failure of the plugin. -/
def Plugin.attempt (p : Plugin σ B) (position : Nat) (b : B) (t : TypeName) (l : Locator) (s : σ) :
    Attempt B × List (Event B) × σ :=
  match p.selects t s with
  | (.panicked m, s) => (.failed (.panicked p.name (panicText m)), [.asked position t], s)
  | (.returned false, s) => (.passed, [.asked position t], s)
  | (.returned true, s) =>
    let events := [.asked position t, .applied position b t]
    match p.apply b t l s with
    | (.panicked m, s) => (.failed (.panicked p.name (panicText m)), events, s)
    | (.returned (.error f), s) => (.failed f, events, s)
    | (.returned (.ok b'), s) => (.applied b', events, s)

structure Progress (B : Type) where
  builder : B
  transformed : Bool := false
  failed : Bool := false

/-- Lets each plugin have its turn. A failing plugin leaves the builder as it is. -/
def applyPlugins (policy : FailurePolicy) (l : Locator) (t : TypeName) :
    Nat → List (Plugin σ B) → Progress B → σ → Except RunError (Progress B) × List (Event B) × σ
  | _, [], g, s => (.ok g, [], s)
  | i, p :: ps, g, s =>
    match p.attempt i g.builder t l s with
    | (.passed, events, s) =>
      let (result, more, s) := applyPlugins policy l t (i + 1) ps g s
      (result, events ++ more, s)
    | (.applied b, events, s) =>
      let (result, more, s) :=
        applyPlugins policy l t (i + 1) ps { g with builder := b, transformed := true } s
      (result, events ++ more, s)
    | (.failed f, events, s) =>
      match policy with
      | .failFast notify =>
        (.error (.plugin t.name f),
          events ++ (if notify then [.notified (.pluginFailure t f)] else []), s)
      | .proceed =>
        let (result, more, s) :=
          applyPlugins policy l t (i + 1) ps { g with failed := true } s
        (result, events ++ .notified (.pluginFailure t f) :: more, s)

def InitializerPolicy.check (policy : InitializerPolicy) (a : Artifact) : Except RunError Unit :=
  match policy, a.liveInitializer? with
  | .reject, some (t, init) => .error (.liveInitializer t.name init.description)
  | _, _ => .ok ()

/-- A result, the events up to it, and the states of pool, plugins and store after it. -/
structure Ran (ρ σ B S α : Type) where
  result : α
  events : List (Event B)
  pool : ρ
  world : σ
  store : S

namespace Engine
variable [Builder B]

def commit (e : Engine ρ σ B) (c : Container S E) (x : E) (t : TypeName) (b : B) (store : S) :
    Except RunError Outcome × List (Event B) × S :=
  match Builder.make b with
  | .error err => (.error err, [.made b], store)
  | .ok a =>
    match e.initializerPolicy.check a with
    | .error err => (.error err, [.made b], store)
    | .ok () =>
      match c.replace x a store with
      | (.error err, store) => (.error err, [.made b, .replaced (c.name x) a false], store)
      | (.ok (), store) =>
        (.ok .success, [.made b, .replaced (c.name x) a true, .notified (.success t)], store)

def process (e : Engine ρ σ B) (c : Container S E) (x : E) (pool : ρ) (world : σ) (store : S) :
    Ran ρ σ B S (Except RunError Outcome) :=
  let name := c.name x
  let (found, pool) := e.pool.describe name pool
  let asked : List (Event B) := if found.consulted then [.described name] else []
  match found.type? with
  | none =>
    ⟨.ok .unresolved, asked ++ [.notified (.unresolved name), .retained name], pool, world,
      c.retain x store⟩
  | some t =>
    let seeded := asked ++ [.seeded t e.version]
    match e.entryPoint t e.version e.locator world with
    | (.error err, world) => ⟨.error err, seeded, pool, world, store⟩
    | (.ok b, world) =>
      match applyPlugins e.failurePolicy e.locator t 0 e.plugins ⟨b, false, false⟩ world with
      | (.error err, events, world) => ⟨.error err, seeded ++ events, pool, world, store⟩
      | (.ok g, events, world) =>
        if g.failed then
          ⟨.ok .failed, seeded ++ events ++ [.notified (.failure t), .retained name], pool, world,
            c.retain x store⟩
        else if !g.transformed then
          ⟨.ok .ignored, seeded ++ events ++ [.notified (.ignored t), .retained name], pool, world,
            c.retain x store⟩
        else
          let (result, committed, store) := e.commit c x t g.builder store
          ⟨result, seeded ++ events ++ committed, pool, world, store⟩

/-- Deals with one element after the other; the first error ends the run. -/
def processAll (e : Engine ρ σ B) (c : Container S E) :
    Supply S E → Report → ρ → σ → S → Ran ρ σ B S (Except RunError Report)
  | .exhausted, report, pool, world, store => ⟨.ok report, [.exhausted], pool, world, store⟩
  | .asking look, report, pool, world, store =>
    e.processAll c (look store) report pool world store
  | .item (.error err) _, _, pool, world, store =>
    ⟨.error err, [.unreadable], pool, world, store⟩
  | .item (.ok x) rest, report, pool, world, store =>
    let step := e.process c x pool world (c.handOut x store)
    match step.result with
    | .error err =>
      { step with result := .error err, events := .received (c.name x) :: step.events }
    | .ok outcome =>
      let more := e.processAll c rest (report.record outcome) step.pool step.world step.store
      { more with events := .received (c.name x) :: step.events ++ more.events }

end Engine

structure SourceGuard (S : Type) where
  store : S
  closed : Bool := false

namespace SourceGuard

def close (c : Container S E) (g : SourceGuard S) :
    Except RunError Unit × List (Event B) × SourceGuard S :=
  let (result, store) := c.close g.store
  (result, [.closed], ⟨store, true⟩)

/-- Closes the source unless that is done. Nobody hears of a failure of that. -/
def drop (c : Container S E) (g : SourceGuard S) : List (Event B) × SourceGuard S :=
  if g.closed then ([], g) else (g.close c).2

end SourceGuard

namespace Engine
variable [Builder B]

/-- A whole run. After an error the guard is only dropped; otherwise it is closed first, and an
error of that is the error of the run. -/
def run (e : Engine ρ σ B) (source : Source S E) (pool : ρ) (world : σ) :
    Ran ρ σ B S (Except RunError Report) :=
  let ran := e.processAll source.container source.pending {} pool world source.store
  let guard : SourceGuard S := { store := ran.store }
  match ran.result with
  | .error err =>
    let (dropping, guard) := guard.drop source.container
    { ran with result := .error err, events := ran.events ++ dropping, store := guard.store }
  | .ok report =>
    let (closed, closing, guard) := guard.close source.container
    let (dropping, guard) := guard.drop source.container
    { ran with
      result := closed.map fun () => report
      events := ran.events ++ closing ++ dropping
      store := guard.store }

end Engine

def Event.notification? : Event B → Option Notification
  | .notified n => some n
  | _ => none

def notifications (events : List (Event B)) : List Notification :=
  events.filterMap Event.notification?

structure EngineDraft (ρ σ B : Type) where
  version : Option FormatVersion := none
  entryPoint : Option (TypeName → FormatVersion → Locator → σ → Except RunError B × σ) := none
  pool : Option (TypePool ρ) := none
  locator : Locator := .nowhere
  plugins : Option (List (PluginTree σ B)) := none
  failurePolicy : Option FailurePolicy := none
  initializerPolicy : Option InitializerPolicy := none

namespace EngineDraft

def addPlugin (d : EngineDraft ρ σ B) (p : PluginTree σ B) : EngineDraft ρ σ B :=
  { d with plugins := some (d.plugins.getD [] ++ [p]) }

def configure (d : EngineDraft ρ σ B) (s : EngineSettings) :
    Except ConfigFault (EngineDraft ρ σ B) := do
  let version ← (FormatVersion.parse s.formatVersion).mapError .version
  return { d with
    version := some version
    failurePolicy := some (if s.failFast then .failFast s.notifyOnAbort else .proceed)
    initializerPolicy := some (if s.failOnLiveInitializer then .reject else .permit) }

private def given {α : Type} (item : String) : Option α → Except ConfigFault α
  | some a => .ok a
  | none => .error (.missingSetting item)

/-- Everything but the locator has to be set. -/
def build (d : EngineDraft ρ σ B) : Except ConfigFault (Engine ρ σ B) := do
  let version ← given "class file version" d.version
  let entryPoint ← given "entry point" d.entryPoint
  let pool ← given "type pool" d.pool
  let plugins ← given "plugins" d.plugins
  let failurePolicy ← given "failure policy" d.failurePolicy
  let initializerPolicy ← given "initializer policy" d.initializerPolicy
  return {
    version, entryPoint, pool, failurePolicy, initializerPolicy
    locator := d.locator
    plugins := (Compound.ofTrees plugins).plugins }

end EngineDraft
end ClassForge
