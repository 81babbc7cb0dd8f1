import ClassForge.Engine

/-!
What can be read off the events of a run: who was applied to what, what was made, what became of the
elements, and what listeners were told. An event is open when it settles nothing: it disposes of no
element, it tells no outcome, and the source is not asked for more.
-/
namespace ClassForge
variable {B : Type}

namespace Event

/-- The position of the applied plugin, and the builder it was given. -/
def application? : Event B → Option (Nat × B)
  | .applied i b _ => some (i, b)
  | _ => none

def making? : Event B → Option B
  | .made b => some b
  | _ => none

/-- The artifact that was to take an element's place, and whether it did. -/
def replacement? : Event B → Option (String × Artifact × Bool)
  | .replaced name a written => some (name, a, written)
  | _ => none

/-- What became of an element: the artifact in its place, or none for an element that was kept. -/
def disposal? : Event B → Option (String × Option Artifact)
  | .retained name => some (name, none)
  | .replaced name a true => some (name, some a)
  | _ => none

def pluginFailure? : Event B → Option (TypeName × PluginFailure)
  | .notified (.pluginFailure t f) => some (t, f)
  | _ => none

def outcome? : Event B → Option Outcome
  | .notified n => n.outcome?
  | _ => none

def isRequest : Event B → Bool
  | .received _ | .unreadable | .exhausted => true
  | _ => false

def isClosing : Event B → Bool
  | .closed => true
  | _ => false

def isOpen : Event B → Bool
  | .described _ | .seeded _ _ | .asked _ _ | .applied _ _ _ | .made _ | .replaced _ _ false => true
  | .notified (.pluginFailure _ _) => true
  | _ => false

end Event

abbrev applications (events : List (Event B)) : List (Nat × B) :=
  events.filterMap Event.application?

abbrev makings (events : List (Event B)) : List B := events.filterMap Event.making?

abbrev replacements (events : List (Event B)) : List (String × Artifact × Bool) :=
  events.filterMap Event.replacement?

abbrev disposals (events : List (Event B)) : List (String × Option Artifact) :=
  events.filterMap Event.disposal?

abbrev pluginFailures (events : List (Event B)) : List (TypeName × PluginFailure) :=
  events.filterMap Event.pluginFailure?

abbrev outcomes (events : List (Event B)) : List Outcome := events.filterMap Event.outcome?

abbrev requests (events : List (Event B)) : Nat := events.countP Event.isRequest

abbrev closings (events : List (Event B)) : Nat := events.countP Event.isClosing

def AllOpen (events : List (Event B)) : Prop := ∀ ev ∈ events, ev.isOpen = true

namespace AllOpen

theorem nil : AllOpen ([] : List (Event B)) := by simp [AllOpen]

theorem cons {ev : Event B} {events : List (Event B)} (first : ev.isOpen = true)
    (rest : AllOpen events) : AllOpen (ev :: events) := by
  intro other member
  rcases List.mem_cons.mp member with rfl | later
  · exact first
  · exact rest other later

theorem append {events more : List (Event B)} (left : AllOpen events) (right : AllOpen more) :
    AllOpen (events ++ more) := by
  intro ev member
  rcases List.mem_append.mp member with earlier | later
  · exact left ev earlier
  · exact right ev later

theorem disposals_eq {events : List (Event B)} (h : AllOpen events) : disposals events = [] := by
  refine List.filterMap_eq_nil_iff.mpr ?_
  intro ev member
  have opened := h ev member
  cases ev with
  | replaced name a written => cases written <;> simp_all [Event.isOpen, Event.disposal?]
  | _ => simp_all [Event.isOpen, Event.disposal?]

theorem outcomes_eq {events : List (Event B)} (h : AllOpen events) : outcomes events = [] := by
  refine List.filterMap_eq_nil_iff.mpr ?_
  intro ev member
  have opened := h ev member
  cases ev with
  | notified n => cases n <;> simp_all [Event.isOpen, Event.outcome?, Notification.outcome?]
  | _ => rfl

theorem requests_eq {events : List (Event B)} (h : AllOpen events) : requests events = 0 := by
  refine List.countP_eq_zero.mpr ?_
  intro ev member
  have opened := h ev member
  cases ev <;> simp_all [Event.isOpen, Event.isRequest]

theorem closings_eq {events : List (Event B)} (h : AllOpen events) : closings events = 0 := by
  refine List.countP_eq_zero.mpr ?_
  intro ev member
  have opened := h ev member
  cases ev <;> simp_all [Event.isOpen, Event.isClosing]

end AllOpen

@[simp] theorem notifications_nil : notifications ([] : List (Event B)) = [] := rfl

@[simp] theorem notifications_append (events more : List (Event B)) :
    notifications (events ++ more) = notifications events ++ notifications more :=
  List.filterMap_append

theorem makings_append (events more : List (Event B)) :
    makings (events ++ more) = makings events ++ makings more := List.filterMap_append

theorem replacements_append (events more : List (Event B)) :
    replacements (events ++ more) = replacements events ++ replacements more :=
  List.filterMap_append

theorem failure_noticed (before after : List (Event B)) (t : TypeName) (f : PluginFailure) :
    pluginFailures (before ++ .notified (.pluginFailure t f) :: after) ≠ [] := by
  intro quiet
  have told := List.filterMap_eq_nil_iff.mp quiet (.notified (.pluginFailure t f)) (by simp)
  simp [Event.pluginFailure?] at told

theorem first_failure_unique {before before' after after' : List (Event B)} {t t' : TypeName}
    {f f' : PluginFailure} (quiet : pluginFailures before = [])
    (quiet' : pluginFailures before' = [])
    (same : before ++ .notified (.pluginFailure t f) :: after =
      before' ++ .notified (.pluginFailure t' f') :: after') :
    before = before' ∧ t = t' ∧ f = f' := by
  induction before generalizing before' with
  | nil =>
    cases before' with
    | nil => simp_all
    | cons ev rest =>
      obtain ⟨rfl, _⟩ := List.cons.inj same
      simp [Event.pluginFailure?] at quiet'
  | cons ev rest ih =>
    cases before' with
    | nil =>
      obtain ⟨rfl, _⟩ := List.cons.inj same
      simp [Event.pluginFailure?] at quiet
    | cons ev' rest' =>
      obtain ⟨rfl, tails⟩ := List.cons.inj same
      have restQuiet : pluginFailures rest = [] := by
        rw [List.filterMap_eq_nil_iff] at quiet ⊢
        exact fun other member => quiet other (List.mem_cons_of_mem _ member)
      have restQuiet' : pluginFailures rest' = [] := by
        rw [List.filterMap_eq_nil_iff] at quiet' ⊢
        exact fun other member => quiet' other (List.mem_cons_of_mem _ member)
      obtain ⟨rfl, sameType, sameFailure⟩ := ih restQuiet restQuiet' tails
      exact ⟨rfl, sameType, sameFailure⟩

end ClassForge
