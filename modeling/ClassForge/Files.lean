import ClassForge.FileTree

/-!
Access to files. What a command does is written for any monad in which files can be read, made and
written; a workspace is a file tree with a working directory, in which accesses may go wrong.
-/
namespace ClassForge

class Files (m : Type → Type) where
  Handle : Type
  read : String → m (Except OsFault Bytes)
  create : String → m (Except OsFault Handle)
  /-- Puts bytes behind those that the file has. Where that fails, some of them may be there. -/
  append : Handle → Bytes → m (Option OsFault)

/-- An access that goes wrong once so many bytes are written. -/
structure Mishap where
  kept : Nat
  fault : OsFault

structure Workspace where
  tree : FileTree
  directory : String
  /-- What comes of the next accesses that change a file; those after them go well. -/
  mishaps : List (Option Mishap) := []

namespace Workspace

def read (w : Workspace) (path : String) : Except OsFault Bytes := w.tree.read w.directory path

def write (w : Workspace) (path : String) (content : Bytes) : Except OsFault Unit × Workspace :=
  match w.tree.write w.directory path content with
  | .ok tree => (.ok (), { w with tree })
  | .error fault => (.error fault, w)

def access (w : Workspace) : Option Mishap × Workspace :=
  (w.mishaps.head?.join, { w with mishaps := w.mishaps.tail })

def create (w : Workspace) (path : String) : Except OsFault String × Workspace :=
  match w.access with
  | (some m, w) => (.error m.fault, w)
  | (none, w) =>
    let (made, w) := w.write path []
    (made.map fun () => path, w)

/-- Nothing is asked of the system where there is nothing to write. -/
def append (w : Workspace) (path : String) (bytes : Bytes) : Option OsFault × Workspace :=
  if bytes.isEmpty then (none, w)
  else
    let (mishap, w) := w.access
    let front := match mishap with
      | some m => bytes.take m.kept
      | none => bytes
    match w.write path ((w.read path).toOption.getD [] ++ front) with
    | (.error fault, w) => (some fault, w)
    | (.ok (), w) => (mishap.map (·.fault), w)

end Workspace

instance : Files (StateM Workspace) where
  Handle := String
  read path := fun w => (w.read path, w)
  create path := fun w => w.create path
  append path bytes := fun w => w.append path bytes

namespace Files
variable {m : Type → Type} [Monad m] [Files m]

/-- Reads all the given files, and afterwards answers for them. -/
def gather (paths : List String) : m (String → Except OsFault Bytes) := do
  let contents ← paths.mapM fun path => do return (path, ← Files.read path)
  return fun path => (contents.lookup path).getD (.error .notFound)

end Files
end ClassForge
