import ClassForge.Failure
import ClassForge.Text.Cut
import ClassForge.Text.Utf8

/-!
Trees of files, directories and symbolic links, and what paths in them lead to. A path is resolved
name by name from the root; a link stands for its target, which is read from where the link is. Only
so many links are followed on one path.
-/
namespace ClassForge

inductive FileTree where
  | file (content : Bytes)
  | directory (entries : List (String × FileTree))
  | link (target : String)
  deriving Repr, Inhabited

inductive OsFault where
  | notFound
  | notDirectory
  | isDirectory
  | tooManyLinks
  | nameTooLong
  | invalidName
  | other (text : String)
  deriving DecidableEq, Repr

namespace OsFault

def message : OsFault → String
  | .notFound => "No such file or directory"
  | .notDirectory => "Not a directory"
  | .isDirectory => "Is a directory"
  | .tooManyLinks => "Too many levels of symbolic links"
  | .nameTooLong => "File name too long"
  | .invalidName => "file name contained an unexpected NUL byte"
  | .other text => text

def detail (f : OsFault) : Detail := .system f.message

end OsFault

namespace FileTree

def empty : FileTree := .directory []

def child? (name : String) : FileTree → Option FileTree
  | .directory entries => (entries.find? (·.1 == name)).map (·.2)
  | _ => none

/-- What stands at a list of names, links not followed. -/
def nodeAt? (t : FileTree) : List String → Option FileTree
  | [] => some t
  | name :: rest => (t.child? name).bind (nodeAt? · rest)

/-- The entry of that name gets the node, at its place; a new entry comes last. -/
def setEntry (name : String) (node : FileTree) :
    List (String × FileTree) → List (String × FileTree)
  | [] => [(name, node)]
  | (n, old) :: rest => if n = name then (n, node) :: rest else (n, old) :: setEntry name node rest

/-- The tree with a node at a list of names; directories are made on the way. -/
def setAt (t : FileTree) : List String → FileTree → FileTree
  | [], node => node
  | name :: rest, node =>
    match t with
    | .directory entries =>
      .directory (setEntry name (setAt ((t.child? name).getD empty) rest node) entries)
    | _ => .directory [(name, setAt empty rest node)]

/-- The names of a path; a slash at the end asks for a directory, as `.` does. -/
def names (path : String) : List String :=
  let parts := ((Text.pieces '/' path.toList).map String.ofList).filter (!·.isEmpty)
  if path.toList.getLast? == some '/' then parts ++ ["."] else parts

def isAbsolute (path : String) : Bool := path.toList.head? == some '/'

/-- A path that is taken from a directory; an absolute one leads where it leads from anywhere. -/
def join (directory path : String) : String :=
  if isAbsolute path then path
  else if directory.isEmpty || directory.toList.getLast? == some '/' then directory ++ path
  else directory ++ "/" ++ path

def linkLimit : Nat := 40

/-- Paths have fewer bytes than this, names at most `nameLimit`. -/
def pathLimit : Nat := 4096

def nameLimit : Nat := 255

/-- The names, without links, to which `todo` leads from `done`. The last name need not exist. -/
def resolve (root : FileTree) (links : Nat) (done : List String) (todo : List String) :
    Except OsFault (List String) :=
  match todo with
  | [] => .ok done
  | "." :: rest => resolve root links done rest
  | ".." :: rest => resolve root links done.dropLast rest
  | name :: rest =>
    if nameLimit < name.utf8ByteSize then .error .nameTooLong
    else match root.nodeAt? (done ++ [name]) with
    | none => if rest.isEmpty then .ok (done ++ [name]) else .error .notFound
    | some (.link target) =>
      match links with
      | 0 => .error .tooManyLinks
      | links + 1 =>
        resolve root links (if isAbsolute target then [] else done) (names target ++ rest)
    | some (.file _) => if rest.isEmpty then .ok (done ++ [name]) else .error .notDirectory
    | some (.directory _) => resolve root links (done ++ [name]) rest
termination_by (links, todo.length)

/-- The names of a directory; at the root there are none. -/
def directoryNames (path : String) : List String := (names path).filter (· != ".")

def locate (root : FileTree) (workingDirectory path : String) : Except OsFault (List String) :=
  if path.toList.contains (Char.ofNat 0) then .error .invalidName
  else if path.isEmpty then .error .notFound
  else if pathLimit ≤ path.utf8ByteSize then .error .nameTooLong
  else resolve root linkLimit (if isAbsolute path then [] else directoryNames workingDirectory)
    (names path)

def stat (root : FileTree) (workingDirectory path : String) : Except OsFault FileTree := do
  let place ← root.locate workingDirectory path
  match root.nodeAt? place with
  | none => .error .notFound
  | some node => .ok node

def read (root : FileTree) (workingDirectory path : String) : Except OsFault Bytes := do
  match ← root.stat workingDirectory path with
  | .file content => .ok content
  | _ => .error .isDirectory

def isFile (root : FileTree) (workingDirectory path : String) : Bool :=
  match root.stat workingDirectory path with
  | .ok (.file _) => true
  | _ => false

def isDirectory (root : FileTree) (workingDirectory path : String) : Bool :=
  match root.stat workingDirectory path with
  | .ok (.directory _) => true
  | _ => false

/-- The tree after a file is made or overwritten. Its directory must be there. -/
def write (root : FileTree) (workingDirectory path : String) (content : Bytes) :
    Except OsFault FileTree := do
  let place ← root.locate workingDirectory path
  match root.nodeAt? place with
  | some (.directory _) => .error .isDirectory
  | some _ => .ok (root.setAt place (.file content))
  | none => .ok (root.setAt place (.file content))

mutual

/-- The files below a node that are reached without a link, each under its path. -/
def files : FileTree → List (String × Bytes)
  | .directory entries => filesOf entries
  | _ => []

def filesOf : List (String × FileTree) → List (String × Bytes)
  | [] => []
  | (name, node) :: rest =>
    (match node with
      | .file content => [(name, content)]
      | .directory entries => (filesOf entries).map fun (n, content) => (name ++ "/" ++ n, content)
      | .link _ => []) ++ filesOf rest

end

end FileTree
end ClassForge
