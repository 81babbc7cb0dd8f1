import ClassForge.Rehearsal.Builder
import ClassForge.TypePool

/-!
Plugins that follow a script. Each performer writes down every call that reaches it before doing
anything, under its own number, so that the calls can be counted afterwards.
-/
namespace ClassForge.Rehearsal

inductive Audition where
  | everything
  | these (names : List String)
  | matching (m : Matcher)
  | panics (message : String)

inductive Act where
  | record
  /-- Records the simple name of the target. -/
  | recordTarget
  | fail (message : String)
  | failBecause (cause : String)
  | nonOperational
  | panic (message : Option String)
  | failMaking (message : String)
  | live (description : String)
  | locate (type : String)
  deriving DecidableEq, Repr

structure Performer where
  /-- Tells it from others of the same name. -/
  number : Nat
  name : String
  audition : Audition
  act : Act

inductive Step where
  | asked
  | applied
  deriving DecidableEq, Repr

structure Note where
  step : Step
  number : Nat
  name : String
  type : TypeName
  deriving DecidableEq, Repr

abbrev Notes := List Note

def Audition.verdict (t : TypeName) : Audition → Call Bool
  | .everything => .returned true
  | .these names => .returned (names.contains t.name)
  | .matching m => .returned (m.accepts t)
  | .panics m => .panicked (some m)

def located (name type : String) (b : Recorder) (l : Locator) : Except PluginFailure Recorder :=
  match l type with
  | .ok (some bytes) => .ok (b.record (type ++ ":" ++ Number.decimal bytes.length))
  | .ok none => .error (.failed name "class not found")
  | .error fault => .error (.caused name fault.detail)

def Act.perform (name : String) (b : Recorder) (t : TypeName) (l : Locator) :
    Act → Call (Except PluginFailure Recorder)
  | .record => .returned (.ok (b.record name))
  | .recordTarget => .returned (.ok (b.record t.simpleName))
  | .fail m => .returned (.error (.failed name m))
  | .failBecause cause => .returned (.error (.caused name (.given cause)))
  | .nonOperational => .returned (.error .nonOperational)
  | .panic m => .panicked m
  | .failMaking m => .returned (.ok ((b.record name).failMaking m))
  | .live d => .returned (.ok ((b.record name).registerLive d))
  | .locate type => .returned (located name type b l)

namespace Performer

def note (p : Performer) (step : Step) (t : TypeName) (notes : Notes) : Notes :=
  notes ++ [⟨step, p.number, p.name, t⟩]

def toPlugin (p : Performer) : Plugin Notes Recorder where
  name := p.name
  selects t notes := (p.audition.verdict t, p.note .asked t notes)
  apply b t l notes := (p.act.perform p.name b t l, p.note .applied t notes)

def applications (p : Performer) (notes : Notes) : Nat :=
  notes.countP fun n => n.number == p.number && n.step == .applied

end Performer

/-- An entry point that cannot seed some types, and seeds others with a builder that fails. -/
structure Opening where
  refused : List String := []
  failing : List String := []
  deriving DecidableEq, Repr

def Opening.seed (o : Opening) (t : TypeName) (v : FormatVersion) (_ : Locator) (notes : Notes) :
    Except RunError Recorder × Notes :=
  if o.refused.contains t.name then (.error (.make t.name "no entry point"), notes)
  else
    let b : Recorder := ⟨t, v, [], [], none⟩
    (.ok (if o.failing.contains t.name then b.failMaking "scripted make failure" else b), notes)

def knownTypes (names : List String) : TypePool Unit :=
  .ofFunction fun name => if names.contains name then some ⟨name⟩ else none

end ClassForge.Rehearsal
