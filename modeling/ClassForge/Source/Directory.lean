import ClassForge.Files
import ClassForge.Source

/-!
Directories as sources. The elements are the files below a directory that are reached without a
link, in the order of their paths; a replaced file is overwritten where it stands. The system is
asked for every directory and for what is in it, and may refuse to answer.
-/
namespace ClassForge

/-- What the system is asked about a directory and its files. -/
inductive Access where
  | opening (directory : String)
  /-- The next entry, after so many. -/
  | listing (directory : String) (index : Nat)
  | inspecting (path : String)
  | emptying (file : String)
  deriving DecidableEq, Repr

def Access.purpose : Access → String
  | .opening directory => "reading directory " ++ directory
  | .listing directory _ => "reading directory " ++ directory
  | .inspecting path => "inspecting " ++ path
  | .emptying file => "writing " ++ file

def Access.failure (a : Access) (fault : OsFault) : RunError := .io a.purpose fault.detail

/-- What goes wrong in a directory though its paths lead somewhere. -/
structure Troubles where
  refused : Access → Option OsFault := fun _ => none
  /-- What comes of putting bytes into the emptied file of a path. -/
  writing : String → Option Mishap := fun _ => none

/-- How much of the bytes gets into an emptied file, and why no more. -/
def Troubles.portion (t : Troubles) (file : String) (bytes : Bytes) : Bytes × Option OsFault :=
  if bytes.isEmpty then ([], none)
  else match t.writing file with
    | some m => (bytes.take m.kept, some m.fault)
    | none => (bytes, none)

namespace Source

def fileBelow (root name : String) : String :=
  if root.toList.getLast? == some '/' then root ++ name else root ++ "/" ++ name

/-- A directory that cannot be opened by its path is refused for that, whatever else there is. -/
def refusal? (troubles : Troubles) (tree : FileTree) (workingDirectory : String) (a : Access) :
    Option OsFault :=
  match a with
  | .opening directory =>
    match tree.stat workingDirectory directory with
    | .error fault => some fault
    | .ok _ => troubles.refused a
  | _ => troubles.refused a

def ask (troubles : Troubles) (tree : FileTree) (workingDirectory : String) (a : Access) :
    Except RunError Unit :=
  match refusal? troubles tree workingDirectory a with
  | some fault => .error (a.failure fault)
  | none => .ok ()

def walk (ask : Access → Except RunError Unit) (directory : String) (index : Nat) :
    List (String × FileTree) → Except RunError (List String)
  | [] => do
    ask (.listing directory index)
    return []
  | (name, node) :: rest => do
    ask (.listing directory index)
    ask (.inspecting (fileBelow directory name))
    let here ← match node with
      | .file _ => pure [name]
      | .link _ => pure []
      | .directory entries => do
        ask (.opening (fileBelow directory name))
        let inner ← walk ask (fileBelow directory name) 0 entries
        pure (inner.map (name ++ "/" ++ ·))
    let further ← walk ask directory (index + 1) rest
    return here ++ further

def overwrite (troubles : Troubles) (workingDirectory root name : String) (a : Artifact)
    (t : FileTree) : Except RunError Unit × FileTree :=
  let file := fileBelow root name
  let failed := Access.failure (.emptying file)
  let (front, stopped) := troubles.portion file a.bytes
  match t.write workingDirectory file front, troubles.refused (.emptying file) with
  | .error fault, _ => (.error (failed fault), t)
  | .ok _, some fault => (.error (failed fault), t)
  | .ok t, none =>
    match stopped with
    | some fault => (.error (failed fault), t)
    | none => (.ok (), t)

def inDirectory (workingDirectory root : String) (troubles : Troubles := {}) :
    Container FileTree String where
  name := id
  handOut _ t := t
  retain _ t := t
  replace := overwrite troubles workingDirectory root
  close t := (.ok (), t)
  endsWhenClosed := true

/-- Opens what must be a directory, or a link to one. -/
def ofDirectory (tree : FileTree) (workingDirectory root : String) (troubles : Troubles := {}) :
    Except RunError (Source FileTree String) :=
  match tree.stat workingDirectory root with
  | .ok (.directory entries) => do
    let ask := ask troubles tree workingDirectory
    ask (.opening root)
    let names ← walk ask root 0 entries
    return {
      container := inDirectory workingDirectory root troubles
      pending := .ofList ((sortNames names).map .ok)
      store := tree }
  | _ => .error (.malformed (.notDirectory root))

end Source
end ClassForge
