import ClassForge.FileTree
import ClassForge.Settings.KeySearch
import ClassForge.Settings.Layers
import ClassForge.Settings.Validation
import ClassForge.Text.Similarity

/-!
Diagnostics of settings: what is wrong, in which key, and what may have been meant. For a key that
is not known they also point at the text that has it.
-/
namespace ClassForge.Settings

structure SourceText where
  name : String
  content : String

structure KeyPlace where
  source : String
  offset : Nat
  length : Nat
  deriving DecidableEq, Repr

inductive Diagnostic where
  | unknownKey (key : String) (suggestion : Option String) (valid : List String)
      (place : Option KeyPlace)
  | wrongType (key detail expected : String)
  | unknownVariant (key value : String) (suggestion : Option String) (valid : List String)
  | missingKey (key : String)
  | violated (v : Violation)
  | other (detail : Detail)

namespace Diagnostic

def messageBy (say : Detail → String) : Diagnostic → String
  | .unknownKey key _ _ _ => s!"unknown configuration key \x60{key}\x60"
  | .wrongType key detail _ => s!"invalid type for key \x60{key}\x60: {detail}"
  | .unknownVariant key value _ _ => s!"unknown variant \x60{value}\x60 for \x60{key}\x60"
  | .missingKey key => s!"missing required key \x60{key}\x60"
  | .violated v => "validation error: " ++ v.messageBy say
  | .other detail => "configuration error: " ++ say detail

def code : Diagnostic → String
  | .unknownKey .. => "smelt::config::unknown_key"
  | .wrongType .. => "smelt::config::invalid_type"
  | .unknownVariant .. => "smelt::config::unknown_variant"
  | .missingKey .. => "smelt::config::missing_key"
  | .violated .. => "smelt::config::validation"
  | .other .. => "smelt::config::other"

private def choices (suggestion : Option String) (valid : List String) : String :=
  let known := String.intercalate ", " valid
  match suggestion with
  | some s => s!"did you mean \x60{s}\x60? Valid values: {known}"
  | none => "valid values: " ++ known

def help : Diagnostic → Option String
  | .unknownKey _ suggestion valid _ => some (choices suggestion valid)
  | .wrongType _ _ expected => some ("expected " ++ expected)
  | .unknownVariant _ _ suggestion valid => some (choices suggestion valid)
  | .missingKey key => some s!"add \x60{key} = <value>\x60 to your smelt.toml"
  | .violated _ => none
  | .other _ => none

end Diagnostic

/-- The text that a value comes from: the one of its file, or the only one for a value from no
file. -/
def sourceOf? (sources : List SourceText) : Origin → Option SourceText
  | .file path => sources.find? (·.name == path)
  | _ =>
    match sources with
    | [s] => some s
    | _ => none

def keyPlace? (sources : List SourceText) (origin : Origin) (path : List String) (key : String) :
    Option KeyPlace := do
  let s ← sourceOf? sources origin
  let offset ← KeySearch.offset? s.content path key
  return ⟨s.name, offset, key.utf8ByteSize⟩

/-- The way from one list of names to another: up to where they part, and down from there. -/
def namesFrom : (base names : List String) → List String
  | b :: base, name :: names =>
    if b = name then namesFrom base names
    else List.replicate (base.length + 1) ".." ++ name :: names
  | base, names => List.replicate base.length ".." ++ names

/-- A path as it is shown: the way from the working directory, if that is shorter. -/
def shownPath (workingDirectory path : String) : String :=
  let plain (path : String) := (FileTree.names path).filter (· != ".")
  let way := namesFrom (plain workingDirectory) (plain path)
  if way.length ≤ (plain path).length then String.intercalate "/" way else path

def originText (workingDirectory : String) : Origin → String
  | .builtIn => ""
  | .inline => " in TOML source string"
  | .file path => " in " ++ shownPath workingDirectory path ++ " TOML file"
  | .environment => " in \x60SMELT_\x60 environment variable(s)"

def ofProblem (sources : List SourceText) (workingDirectory : String) (origin : Origin)
    (f : Decode.Fault) : Diagnostic :=
  let key := String.intercalate "." f.path
  match f.problem with
  | .unknownField name known =>
    .unknownKey name (Text.Similarity.suggest name known) known
      (keyPlace? sources origin f.path name)
  | .unknownVariant name known =>
    .unknownVariant key name (Text.Similarity.suggest name known) known
  | .missingField name => .missingKey name
  | .wrongType actual expected =>
    .wrongType key s!"found {actual}, expected {expected}" expected
  | .wrongLength length expected =>
    let place := Text.Quoted.quote ("default." ++ key)
    .other (.given (s!"invalid length {length}, expected {expected} for key {place}" ++
      originText workingDirectory origin))

def ofReadFault (workingDirectory : String) : ReadFault → Diagnostic
  | .malformed fault => .other (.document fault.message)
  | .undecodable path =>
    .other (.given ("stream did not contain valid UTF-8\n" ++
      originText workingDirectory (.file path)))

def LoadFault.diagnostics (sources : List SourceText) (workingDirectory : String) :
    LoadFault → List Diagnostic
  | .unreadable faults => faults.map (ofReadFault workingDirectory)
  | .unusable fault origin => [ofProblem sources workingDirectory origin fault]

def loadChecked [PatternEngine] (inputs : List Input) (sources : List SourceText)
    (workingDirectory : String) : Except (List Diagnostic) Settings :=
  match load inputs with
  | .error fault => .error (fault.diagnostics sources workingDirectory)
  | .ok s =>
    match violations s with
    | [] => .ok s
    | vs => .error (vs.map .violated)

def inlineName : String := "<inline>"

def loadText [PatternEngine] (text : String) : Except (List Diagnostic) Settings :=
  loadChecked [.inline text] [⟨inlineName, text⟩] ""

def sourceText? (name : String) : Option FileText → List SourceText
  | some (.text s) => [⟨name, s⟩]
  | _ => []

def absolute (workingDirectory path : String) : String := FileTree.join workingDirectory path

/-- Settings of a file, which may be named by a relative path, and the environment. -/
def loadFile [PatternEngine] (workingDirectory path : String) (content : Option FileText)
    (env : List (String × String)) : Except (List Diagnostic) Settings :=
  loadChecked [.file (absolute workingDirectory path) content, .environment env]
    (sourceText? path content) workingDirectory

def localPath : String := "smelt.toml"

def userPath : String := "smelt/smelt.toml"

def hierarchy (workingDirectory userFile : String) (user localFile : Option FileText)
    (env : List (String × String)) : List Input :=
  [.file userFile user, .file (absolute workingDirectory localPath) localFile, .environment env]

def loadHierarchy [PatternEngine] (workingDirectory userFile : String)
    (user localFile : Option FileText) (env : List (String × String)) :
    Except (List Diagnostic) Settings :=
  loadChecked (hierarchy workingDirectory userFile user localFile env)
    (sourceText? (absolute workingDirectory localPath) localFile ++ sourceText? userFile user)
    workingDirectory

end ClassForge.Settings
