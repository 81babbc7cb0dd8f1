import ClassForge.TypeName

/-!
Type pools say which type, if any, an entry of a container holds. What a pool keeps between lookups
is a state that every lookup takes and hands on.
-/
namespace ClassForge

structure Lookup where
  type? : Option TypeName
  /-- False for an answer that was remembered. -/
  consulted : Bool
  deriving DecidableEq, Repr

structure TypePool (ρ : Type) where
  describe : String → ρ → Lookup × ρ

namespace TypePool

def ofFunction (f : String → Option TypeName) : TypePool Unit where
  describe name _ := (⟨f name, true⟩, ())

/-- Drops every `./` and `/` at the start of an entry name. -/
def relative : List Char → List Char
  | '/' :: cs => relative cs
  | '.' :: '/' :: cs => relative cs
  | cs => cs

def metadata : String := "META-INF/"

def classSuffix : String := ".class"

def lastName (cs : List Char) : List Char :=
  match Text.cutLast '/' cs with
  | some (_, after) => after
  | none => cs

/-- The type of a class file entry. Entries that begin in one of the ways to skip hold no type, nor
do metadata and the descriptors of modules and packages. -/
def classFile (skip : List String) (name : String) : Option TypeName :=
  let cs := relative name.toList
  if (metadata :: skip).any fun start => start.toList.isPrefixOf cs then none
  else match classSuffix.toList.reverse.isPrefixOf? cs.reverse with
    | none => none
    | some rest =>
      let internal := rest.reverse
      let simple := String.ofList (lastName internal)
      if simple == "" || simple == "module-info" || simple == "package-info" then none
      else some (TypeName.ofInternal (String.ofList internal))

def classFiles (skip : List String) : TypePool Unit := ofFunction (classFile skip)

abbrev Cache := List (String × Option TypeName)

def cached {ρ : Type} (inner : TypePool ρ) : TypePool (ρ × Cache) where
  describe name state :=
    match state.2.lookup name with
    | some answer => (⟨answer, false⟩, state)
    | none =>
      let (found, r) := inner.describe name state.1
      (⟨found.type?, true⟩, (r, (name, found.type?) :: state.2))

end TypePool
end ClassForge
