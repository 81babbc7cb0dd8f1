import ClassForge.Number.Digits
import ClassForge.Text.Utf8
import ClassForge.TypeName

/-!
Made class files. An artifact carries, beside its bytes, the initializers that its type and the
auxiliary types made with it need at load time. They form a map in order of first registration;
the artifact's own type is always its first key, and starts out with nothing to run.
-/
namespace ClassForge

structure Initializer where
  /-- An alive initializer has code that must run when the type is loaded. -/
  alive : Bool
  description : String
  deriving DecidableEq, Repr

namespace Initializer

def dormant : Initializer := ⟨false, "no-op"⟩

def live (description : String) : Initializer := ⟨true, description⟩

end Initializer

structure Artifact where
  type : TypeName
  bytes : Bytes
  initializers : List (TypeName × Initializer)
  deriving DecidableEq, Repr

namespace Artifact

def ofBytes (type : TypeName) (bytes : Bytes) : Artifact :=
  ⟨type, bytes, [(type, .dormant)]⟩

/-- The entry of `target` gets the new value, at its place; a new key comes last. -/
def setInitializer (target : TypeName) (init : Initializer) :
    List (TypeName × Initializer) → List (TypeName × Initializer)
  | [] => [(target, init)]
  | (t, old) :: rest =>
    if t = target then (t, init) :: rest else (t, old) :: setInitializer target init rest

def withInitializer (a : Artifact) (target : TypeName) (init : Initializer) : Artifact :=
  { a with initializers := setInitializer target init a.initializers }

def liveInitializer? (a : Artifact) : Option (TypeName × Initializer) :=
  a.initializers.find? (·.2.alive)

/-- The artifact with one live initializer for each description, the `i`-th for the auxiliary type
`<type><mark><i>`. -/
def withLiveInitializers (a : Artifact) (mark : String) (descriptions : List String) : Artifact :=
  descriptions.zipIdx.foldl (fun made (description, i) =>
    made.withInitializer ⟨a.type.name ++ mark ++ Number.decimal i⟩ (.live description)) a

end Artifact
end ClassForge
