import ClassForge.Failure
import ClassForge.Report
import ClassForge.TypeName

/-!
Notifications of a run, and those who listen. A listener may stand for several others; a
notification reaches each of them in order, as often as it is named.
-/
namespace ClassForge

inductive Notification where
  | success (type : TypeName)
  | ignored (type : TypeName)
  | pluginFailure (type : TypeName) (failure : PluginFailure)
  | failure (type : TypeName)
  | unresolved (name : String)
  deriving DecidableEq, Repr

namespace Notification

/-- The outcome that a notification is the last word on. -/
def outcome? : Notification → Option Outcome
  | .success _ => some .success
  | .ignored _ => some .ignored
  | .pluginFailure _ _ => none
  | .failure _ => some .failed
  | .unresolved _ => some .unresolved

end Notification

structure FailureRecord where
  target : String
  failure : PluginFailure
  deriving DecidableEq, Repr

structure Summary where
  report : Report := {}
  failures : List FailureRecord := []
  deriving DecidableEq, Repr, Inhabited

namespace Summary

def hear (s : Summary) (n : Notification) : Summary where
  report := match n.outcome? with
    | some o => s.report.record o
    | none => s.report
  failures := match n with
    | .pluginFailure t f => s.failures ++ [⟨t.name, f⟩]
    | _ => s.failures

def ofNotifications (ns : List Notification) : Summary := ns.foldl hear {}

end Summary

inductive Audience (κ : Type) where
  | one (listener : κ)
  | group (members : List (Audience κ))

namespace Audience
variable {κ : Type}

mutual

def reached : Audience κ → List κ
  | .one k => [k]
  | .group members => reachedByAll members

def reachedByAll : List (Audience κ) → List κ
  | [] => []
  | a :: as => reached a ++ reachedByAll as

end

def heard [BEq κ] (a : Audience κ) (k : κ) (ns : List Notification) : List Notification :=
  ns.flatMap fun n => (a.reached.filter (· == k)).map fun _ => n

end Audience
end ClassForge
