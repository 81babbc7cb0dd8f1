import ClassForge.Console.Session
import ClassForge.Pattern.Engine

/-!
The program. Files, the environment and the terminal are those of the system; everything else is a
session on the command line.
-/
namespace ClassForge.Console

/-- The number that the system gives to reading a directory. -/
private def directoryCode : UInt32 := 21

private def faultOf : IO.Error → OsFault
  | .noFileOrDirectory .. => .notFound
  | .inappropriateType _ code text =>
    if code = directoryCode then .isDirectory else .other text
  | err => .other (toString err)

private def attempt {α : Type} (action : IO α) : IO (Except OsFault α) := do
  try return .ok (← action)
  catch err => return .error (faultOf err)

instance : Files IO where
  read path := do return (← attempt (IO.FS.readBinFile path)).map (·.toList)
  Handle := IO.FS.Handle
  create path := attempt (IO.FS.Handle.mk path .write)
  append file bytes := do
    let done ← attempt do
      file.write (ByteArray.mk bytes.toArray)
      file.flush
    return match done with
      | .ok () => none
      | .error fault => some fault

/-- The variables that the system lists, each as `name=value` and a zero. -/
private def environment : IO (List (String × String)) := do
  match ← Files.read (m := IO) "/proc/self/environ" with
  | .error _ => return []
  | .ok bytes =>
    return (Text.pieces 0 bytes).filterMap fun entry =>
      (Text.cutFirst '=' (Text.Utf8.decodeLossy entry)).map fun (name, value) =>
        (String.ofList name, String.ofList value)

private def settingsHome (env : List (String × String)) : String :=
  match (env.lookup "XDG_CONFIG_HOME").filter FileTree.isAbsolute with
  | some path => path
  | none => (env.lookup "HOME").getD "" ++ "/.config"

private def surroundings : IO Surroundings := do
  let env ← environment
  return {
    directory := toString (← IO.currentDir)
    userFile := settingsHome env ++ "/" ++ Settings.userPath
    env
    terminal := ← (← IO.getStdout).isTty }

private def report (color : Bool) (reply : Reply) : IO Unit := do
  IO.print reply.output
  match reply.ending with
  | .done => pure ()
  | .helped => if reply.lines.isEmpty then IO.println usage
  | .misused => IO.eprintln usage
  | .misconfigured diagnostics =>
    for d in diagnostics do
      IO.eprintln (d.messageBy Detail.text)
      if let some help := d.help then IO.eprintln ("  help: " ++ help)
  | .failed _ =>
    if let some line := reply.errorLineBy Detail.text then
      IO.eprintln (Style.failure.paint color line)

end ClassForge.Console

open ClassForge ClassForge.Console in
open scoped ClassForge.Pattern in
def main (arguments : List String) : IO UInt32 := do
  let place ← surroundings
  let reply ← run (m := IO) place arguments
  report (usesColor (arguments.contains "--plain") place.terminal) reply
  return UInt32.ofNat reply.code
