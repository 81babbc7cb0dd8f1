import ClassForge.Number.Digits

/-!
Outcomes of elements and their tally. Every element that a run deals with has exactly one outcome;
the report of a run counts each kind.
-/
namespace ClassForge

inductive Outcome where
  | success
  | ignored
  | failed
  | unresolved
  deriving DecidableEq, Repr

namespace Outcome

def keyword : Outcome → String
  | .success => "success"
  | .ignored => "ignored"
  | .failed => "failed"
  | .unresolved => "unresolved"

def all : List Outcome := [.success, .ignored, .failed, .unresolved]

def ofKeyword? (text : String) : Option Outcome := all.find? (·.keyword == text)

end Outcome

structure Report where
  transformed : Nat := 0
  ignored : Nat := 0
  failed : Nat := 0
  unresolved : Nat := 0
  deriving DecidableEq, Repr, Inhabited

namespace Report
open Number

def empty : Report := {}

def record (r : Report) : Outcome → Report
  | .success => { r with transformed := r.transformed + 1 }
  | .ignored => { r with ignored := r.ignored + 1 }
  | .failed => { r with failed := r.failed + 1 }
  | .unresolved => { r with unresolved := r.unresolved + 1 }

def count (r : Report) : Outcome → Nat
  | .success => r.transformed
  | .ignored => r.ignored
  | .failed => r.failed
  | .unresolved => r.unresolved

def ofOutcomes (outcomes : List Outcome) : Report := outcomes.foldl record empty

def add (a b : Report) : Report where
  transformed := a.transformed + b.transformed
  ignored := a.ignored + b.ignored
  failed := a.failed + b.failed
  unresolved := a.unresolved + b.unresolved

def total (r : Report) : Nat := r.transformed + r.ignored + r.failed + r.unresolved

def hasFailures (r : Report) : Bool := 0 < r.failed

def render (r : Report) : String :=
  decimal r.transformed ++ " transformed, " ++ decimal r.ignored ++ " ignored, " ++
    decimal r.failed ++ " failed, " ++ decimal r.unresolved ++ " unresolved"

end Report
end ClassForge
