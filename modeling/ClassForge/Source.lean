import ClassForge.Artifact
import ClassForge.Failure

/-!
Sources of elements. A source hands out its elements one after the other, some of which it may not
be able to read; each element is then kept or replaced in the source's store. A container says how a
kind of store does these things. What comes next may depend on the store, and so on what became of
the elements before.
-/
namespace ClassForge

structure Container (S E : Type) where
  name : E → String
  handOut : E → S → S
  retain : E → S → S
  replace : E → Artifact → S → Except RunError Unit × S
  close : S → Except RunError Unit × S
  /-- After closing, nothing more is handed out. -/
  endsWhenClosed : Bool := false

inductive Supply (S E : Type) where
  | exhausted
  | item (head : Except RunError E) (rest : Supply S E)
  /-- It goes by the store how the supply goes on. -/
  | asking (look : S → Supply S E)

namespace Supply
variable {S E : Type}

def ofList : List (Except RunError E) → Supply S E
  | [] => .exhausted
  | head :: rest => .item head (ofList rest)

def draw : Supply S E → S → Option (Except RunError E × Supply S E)
  | .exhausted, _ => none
  | .item head rest, _ => some (head, rest)
  | .asking look, store => draw (look store) store

@[simp] theorem draw_ofList_nil (store : S) :
    (ofList [] : Supply S E).draw store = none := rfl

@[simp] theorem draw_ofList_cons (head : Except RunError E) (rest : List (Except RunError E))
    (store : S) : (ofList (head :: rest)).draw store = some (head, ofList rest) := rfl

/-- What holds of a supply if it holds of what may come after its next item, holds of all. -/
theorem draw_induction {motive : Supply S E → Prop}
    (step : ∀ s, (∀ store head rest, s.draw store = some (head, rest) → motive rest) → motive s)
    (s : Supply S E) : motive s := by
  have both : motive s ∧
      ∀ store head rest, s.draw store = some (head, rest) → motive rest := by
    induction s with
    | exhausted => exact ⟨step _ nofun, nofun⟩
    | item head rest ih =>
      have after : ∀ store head' rest', (item head rest).draw store = some (head', rest') →
          motive rest' := by
        intro store head' rest' drawn
        cases drawn
        exact ih.1
      exact ⟨step _ after, after⟩
    | asking look ih =>
      have after : ∀ store head rest, (asking look).draw store = some (head, rest) →
          motive rest := fun store => (ih store).2 store
      exact ⟨step _ after, after⟩
  exact both.1

end Supply

structure Source (S E : Type) where
  container : Container S E
  pending : Supply S E
  store : S

namespace Source
variable {S E : Type}

def next (s : Source S E) : Option (Except RunError E) × Source S E :=
  match s.pending.draw s.store with
  | none => (none, s)
  | some (.error e, rest) => (some (.error e), { s with pending := rest })
  | some (.ok x, rest) =>
    (some (.ok x), { s with pending := rest, store := s.container.handOut x s.store })

def retain (s : Source S E) (x : E) : Source S E :=
  { s with store := s.container.retain x s.store }

def replace (s : Source S E) (x : E) (a : Artifact) : Except RunError Unit × Source S E :=
  let (result, store) := s.container.replace x a s.store
  (result, { s with store })

def close (s : Source S E) : Except RunError Unit × Source S E :=
  let (result, store) := s.container.close s.store
  let pending := if s.container.endsWhenClosed then .exhausted else s.pending
  (result, { s with store, pending })

/-- An element known by its place in a list of entries, whose names may repeat. -/
structure Place where
  index : Nat
  name : String
  deriving DecidableEq, Repr

def places (names : List String) : List Place := names.zipIdx.map fun (name, i) => ⟨i, name⟩

end Source
end ClassForge
