import ClassForge.Console.Arguments
import ClassForge.Console.Style
import ClassForge.Files
import ClassForge.Planning
import ClassForge.Settings.Diagnostic

/-!
Sessions on the command line. The arguments and the settings decide what is done; a command prints
lines and may end in an error. Nothing is printed of what comes after the first error.
-/
namespace ClassForge.Console
open Number

structure Surroundings where
  directory : String
  userFile : String
  env : List (String × String)
  terminal : Bool

inductive Ending where
  | done
  | helped
  | misused
  | misconfigured (diagnostics : List Settings.Diagnostic)
  | failed (error : RunError)

structure Reply where
  lines : List String
  ending : Ending

namespace Reply

def code (r : Reply) : Nat :=
  match r.ending with
  | .done | .helped => 0
  | .misconfigured _ | .failed _ => 1
  | .misused => 2

def output (r : Reply) : String := String.join (r.lines.map (· ++ "\n"))

def errorLineBy (say : Detail → String) (r : Reply) : Option String :=
  match r.ending with
  | .failed err => some ("smelt: " ++ err.messageBy say)
  | _ => none

end Reply

def versionLine : String := "smelt 0.1.0"

def usage : String :=
  "Usage: smelt [--config <CONFIG>] [--plain] check\n" ++
  "       smelt [--config <CONFIG>] [--plain] scan <ARCHIVE>\n" ++
  "       smelt [--config <CONFIG>] [--plain] plan [-o <OUTPUT>] [--plugin <NAME>]... <ARCHIVE>"

def padded (width : Nat) (text : String) : String :=
  text ++ String.ofList (List.replicate (width - text.length) ' ')

structure Printed where
  lines : List String
  error : Option RunError := none

def Printed.reply (p : Printed) : Reply :=
  ⟨p.lines, match p.error with
    | none => .done
    | some err => .failed err⟩

def printing {α : Type} (lines : α → List String) : Except RunError α → Printed
  | .ok a => ⟨lines a, none⟩
  | .error err => ⟨[], some err⟩

def pluginLine (color : Bool) (e : RegistryEntry Unit PlanBuilder) : String :=
  let style : Style := if e.status = .notConfigured then .warning else .muted
  "  " ++ padded 24 e.name ++ " " ++ e.manifest.version ++ " " ++ style.paint color e.status.keyword

def check [PatternEngine] (read : FileReader) (color : Bool) (s : Settings) : Printed :=
  let registry : Registry Unit PlanBuilder := Planning.registry read s
  printing (fun e => [
      Style.success.paint color "✓" ++ " configuration is valid",
      "  target " ++ e.version.render ++ " with the " ++ s.engine.entryPoint.keyword ++
        " entry point"] ++
    (if registry.entries.isEmpty then ["  " ++ Style.warning.paint color "no plugins declared"]
      else []) ++
    registry.sorted.map (pluginLine color)) (Planning.engine s registry [])

def scanLine (color : Bool) (l : Planning.ScanLine) : String :=
  match l.type? with
  | some t => "  " ++ Style.success.paint color "type" ++ " " ++ t.name
  | none => "  " ++ Style.muted.paint color "skip" ++ " " ++ l.entry

def scan (read : FileReader) (color : Bool) (s : Settings) (archive : String) : Printed :=
  printing (fun lines =>
    [Style.heading.paint color ("Entries of " ++ archive)] ++ lines.map (scanLine color) ++
      ["", decimal (lines.countP (·.type?.isSome)) ++ " of " ++ decimal lines.length ++
        " entries resolved"]) (Planning.scan read s archive)

def planLines (color : Bool) (archive : String) (r : Planning.Result) : List String :=
  let replaced := r.ledger.filterMap fun e =>
    match e.disposition with
    | .replaced a => some ("  " ++ Style.success.paint color "✓" ++ " " ++ a.type.name)
    | .pending | .retained => none
  let failures := r.failures.map fun f =>
    "  " ++ Style.failure.paint color "✗" ++ " " ++ f.target ++ ": " ++ f.failure.message
  let style : Style := if r.report.hasFailures then .warning else .success
  [Style.heading.paint color ("Plan for " ++ archive)] ++ replaced ++ failures ++
    ["", style.paint color r.report.render]

variable {m : Type → Type} [Monad m] [Files m]

/-- Writes an archive from a ledger. The file is made first, and holds what could be written. -/
def writeArchive (path : String) (ledger : Ledger) : m (Option RunError) := do
  match ← Files.create path with
  | .error fault => return some (.io ("creating " ++ path) fault.detail)
  | .ok file => ledger.writeTo (Files.append file)

def plan [PatternEngine] (read : FileReader) (color : Bool) (s : Settings) (archive : String)
    (output : Option String) (selected : List String) : m Printed := do
  match Planning.plan read s archive selected, output with
  | .error err, _ => return ⟨[], some err⟩
  | .ok r, none => return ⟨planLines color archive r, none⟩
  | .ok r, some path =>
    match ← writeArchive path r.ledger with
    | some err => return ⟨planLines color archive r, some err⟩
    | none =>
      return ⟨planLines color archive r ++ [Style.muted.paint color ("wrote " ++ path)], none⟩

def readText (path : String) : m (Option Settings.FileText) := do
  return (← Files.read path).toOption.map Settings.FileText.ofBytes

def loadSettings [PatternEngine] (place : Surroundings) :
    Option String → m (Except (List Settings.Diagnostic) Settings)
  | some path => do
    return Settings.loadFile place.directory path (← readText path) place.env
  | none => do
    return Settings.loadHierarchy place.directory place.userFile (← readText place.userFile)
      (← readText Settings.localPath) place.env

def archive? : Command → Option String
  | .check => none
  | .scan archive => some archive
  | .plan archive _ _ => some archive

def perform [PatternEngine] (color : Bool) (s : Settings) (command : Command) : m Printed := do
  let manifests := s.plugins.filterMap (·.manifest)
  let read ← Files.gather (manifests ++ (archive? command).toList)
  match command with
  | .check => return check read color s
  | .scan archive => return scan read color s archive
  | .plan archive output selected => plan read color s archive output selected

def run [PatternEngine] (place : Surroundings) (arguments : List String) : m Reply := do
  match Arguments.parse arguments with
  | .error .usage => return ⟨[], .misused⟩
  | .error .help => return ⟨[], .helped⟩
  | .error .version => return ⟨[versionLine], .helped⟩
  | .ok invocation =>
    match ← loadSettings place invocation.config with
    | .error diagnostics => return ⟨[], .misconfigured diagnostics⟩
    | .ok s =>
      let color := usesColor invocation.plain place.terminal
      return (← perform color s invocation.command).reply

end ClassForge.Console
