import ClassForge.FormatVersion

/-!
What can go wrong, by cause. A `Detail` is a text that comes from beside the engine (the operating
system, an archive, a pattern, a document); every message is put together around such details by
one function, so that a caller may say them in words of its own.
-/
namespace ClassForge

inductive Detail.Origin where
  | given
  | system
  | archive
  | pattern
  /-- How a document is written. -/
  | document
  /-- What a document holds. -/
  | content
  deriving DecidableEq, Repr

structure Detail where
  origin : Detail.Origin
  text : String
  deriving DecidableEq, Repr

namespace Detail

def given (text : String) : Detail := ⟨.given, text⟩
def system (text : String) : Detail := ⟨.system, text⟩
def archive (text : String) : Detail := ⟨.archive, text⟩
def pattern (text : String) : Detail := ⟨.pattern, text⟩
def document (text : String) : Detail := ⟨.document, text⟩
def content (text : String) : Detail := ⟨.content, text⟩

end Detail

inductive PluginFailure where
  | failed (plugin message : String)
  /-- Another error made the plugin fail; its text is the failure's message. -/
  | caused (plugin : String) (cause : Detail)
  | panicked (plugin message : String)
  | nonOperational
  deriving DecidableEq, Repr

namespace PluginFailure

def plugin? : PluginFailure → Option String
  | .failed p _ => some p
  | .caused p _ => some p
  | .panicked p _ => some p
  | .nonOperational => none

def hasCause : PluginFailure → Bool
  | .caused _ _ => true
  | _ => false

def messageBy (say : Detail → String) : PluginFailure → String
  | .failed p m => s!"plugin `{p}` failed: {m}"
  | .caused p d =>
    let m := say d
    s!"plugin `{p}` failed: {m}"
  | .panicked p m => s!"plugin `{p}` panicked: {m}"
  | .nonOperational => "cannot apply non-operational plugin"

def message : PluginFailure → String := messageBy Detail.text

end PluginFailure

inductive ConfigFault where
  | stated (message : String)
  | version (fault : VersionFault)
  | missingSetting (item : String)
  | pattern (text : String) (detail : Detail)
  | unknownPlugin (name : String)
  | noFactory (name : String)
  | manifestUnreadable (detail : Detail)
  | manifestNameEmpty
  | manifestVersionEmpty
  | manifestOfOther (path declared expected : String)
  deriving DecidableEq, Repr

def ConfigFault.messageBy (say : Detail → String) : ConfigFault → String
  | .stated m => m
  | .version f => f.message
  | .missingSetting item => s!"engine {item} is not configured"
  | .pattern p d =>
    let m := say d
    s!"invalid name pattern `{p}`: {m}"
  | .unknownPlugin n => s!"unknown plugin `{n}`"
  | .noFactory n => s!"plugin `{n}` has no factory"
  | .manifestUnreadable d => "invalid plugin manifest: " ++ say d
  | .manifestNameEmpty => "plugin manifest: name must not be empty"
  | .manifestVersionEmpty => "plugin manifest: version must not be empty"
  | .manifestOfOther path declared expected =>
    s!"manifest {path} declares plugin `{declared}`, expected `{expected}`"

inductive SourceFault where
  | stated (message : String)
  | unreadableArchive (detail : Detail)
  | unreadableEntry (detail : Detail)
  | notDirectory (path : String)
  | vanished (entry : String)
  deriving DecidableEq, Repr

def SourceFault.messageBy (say : Detail → String) : SourceFault → String
  | .stated m => m
  | .unreadableArchive d => "unreadable tar archive: " ++ say d
  | .unreadableEntry d => "unreadable tar entry: " ++ say d
  | .notDirectory p => p ++ " is not a directory"
  | .vanished n => s!"entry {n} vanished"

inductive RunError where
  | configuration (fault : ConfigFault)
  | io (context : String) (cause : Detail)
  | plugin (type : String) (failure : PluginFailure)
  | liveInitializer (type initializer : String)
  | make (type message : String)
  | malformed (fault : SourceFault)
  deriving DecidableEq, Repr

namespace RunError

def messageBy (say : Detail → String) : RunError → String
  | .configuration f => "configuration error: " ++ f.messageBy say
  | .io context cause => s!"i/o error while {context}: " ++ say cause
  | .plugin type failure => s!"plugin failure on {type}: " ++ failure.messageBy say
  | .liveInitializer type init => s!"cannot apply live initializer for {type}: {init}"
  | .make type m => s!"failed to make {type}: {m}"
  | .malformed f => "malformed source: " ++ f.messageBy say

def message : RunError → String := messageBy Detail.text

def causeBy (say : Detail → String) : RunError → Option String
  | .io _ cause => some (say cause)
  | .plugin _ failure => some (failure.messageBy say)
  | _ => none

end RunError
end ClassForge
