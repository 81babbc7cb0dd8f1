import ClassForge.Plugin

/-!
A builder that records. What it makes lists the recorded names, one a line, so that a rehearsed run
shows who contributed and in which order.
-/
namespace ClassForge.Rehearsal

structure Recorder where
  target : TypeName
  version : FormatVersion
  applied : List String := []
  live : List String := []
  /-- The message with which making is to fail. -/
  failure : Option String := none
  deriving DecidableEq, Repr

namespace Recorder

def record (name : String) (r : Recorder) : Recorder := { r with applied := r.applied ++ [name] }

def registerLive (description : String) (r : Recorder) : Recorder :=
  { r with live := r.live ++ [description] }

def failMaking (message : String) (r : Recorder) : Recorder := { r with failure := some message }

def make (r : Recorder) : Except RunError Artifact :=
  match r.failure with
  | some m => .error (.make r.target.name m)
  | none =>
    .ok ((Artifact.ofBytes r.target
      (Text.Utf8.encode (String.intercalate "\n" r.applied))).withLiveInitializers
        "$Initializer" r.live)

instance : Builder Recorder := ⟨make⟩

end Recorder

def contributions (a : Artifact) : List String :=
  (Text.lines (Text.Utf8.decodeLossy a.bytes)).map String.ofList

end ClassForge.Rehearsal
