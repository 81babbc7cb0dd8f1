/-!
Computations that may fail, read backwards: what was computed on the way to a result, and which part
of one is to blame when it fails.
-/
namespace ClassForge
variable {α β ε : Type}

theorem bind_succeeds {x : Except ε α} {f : α → Except ε β} {b : β} (done : (x >>= f) = .ok b) :
    ∃ a, x = .ok a ∧ f a = .ok b := by
  cases x with
  | error fault => exact absurd done (by simp [bind, Except.bind])
  | ok a => exact ⟨a, rfl, done⟩

section
variable {σ : Type} {step : σ → β → Except ε σ} (change : σ → σ) {start final : σ}

/-- Steps that do not mind a change of the state, taken one after the other. -/
theorem foldlM_changed {steps : List β}
    (each : ∀ x ∈ steps, ∀ s s', step s x = .ok s' → step (change s) x = .ok (change s'))
    (done : steps.foldlM step start = .ok final) :
    steps.foldlM step (change start) = .ok (change final) := by
  induction steps generalizing start with
  | nil => exact congrArg (Except.ok <| change ·) (Except.ok.inj done)
  | cons x xs ih =>
    obtain ⟨here, later⟩ := List.forall_mem_cons.mp each
    rw [List.foldlM_cons] at done ⊢
    obtain ⟨next, first, done⟩ := bind_succeeds done
    rw [here _ _ first]
    exact ih later done

/-- A step that makes the change, put in before such steps. -/
theorem foldlM_insert {before after : List β} {x : β} (here : ∀ s, step s x = .ok (change s))
    (later : ∀ y ∈ after, ∀ s s', step s y = .ok s' → step (change s) y = .ok (change s'))
    (done : (before ++ after).foldlM step start = .ok final) :
    (before ++ x :: after).foldlM step start = .ok (change final) := by
  rw [List.foldlM_append] at done ⊢
  obtain ⟨middle, first, done⟩ := bind_succeeds done
  rw [first]
  change (x :: after).foldlM step middle = _
  rw [List.foldlM_cons, here]
  exact foldlM_changed change later done

end

theorem map_succeeds {x : Except ε α} {f : α → β} {b : β} (done : x.map f = .ok b) :
    ∃ a, x = .ok a ∧ f a = b := by
  cases x with
  | error fault => cases done
  | ok a => exact ⟨a, rfl, Except.ok.inj done⟩

theorem mapError_eq_ok {ε' : Type} {x : Except ε α} {f : ε → ε'} {a : α} :
    x.mapError f = .ok a ↔ x = .ok a := by
  cases x with
  | error fault => exact iff_of_false nofun nofun
  | ok a' =>
    constructor <;> intro done <;> exact congrArg Except.ok (Except.ok.inj done)

theorem mapError_error {ε' : Type} (f : ε → ε') (err : ε) :
    (Except.error err : Except ε α).mapError f = .error (f err) := rfl

theorem toOption_succeeds {x : Except ε α} {a : α} (done : x.toOption = some a) : x = .ok a := by
  cases x with
  | error fault => cases done
  | ok a' => exact congrArg Except.ok (Option.some.inj done)

def faultOf? {ε α : Type} : Except ε α → Option ε
  | .ok _ => none
  | .error err => some err

theorem faultOf?_eq_none {x : Except ε α} : faultOf? x = none ↔ ∃ a, x = .ok a := by
  cases x <;> simp [faultOf?]

theorem faultOf?_eq_some {x : Except ε α} {err : ε} : faultOf? x = some err ↔ x = .error err := by
  cases x <;> simp [faultOf?]

theorem faultOf?_map (f : α → β) (x : Except ε α) : faultOf? (x.map f) = faultOf? x := by
  cases x <;> rfl

theorem faultOf?_mapM {f : α → Except ε β} {g : α → Option ε} {xs : List α}
    (each : ∀ x ∈ xs, faultOf? (f x) = g x) : faultOf? (xs.mapM f) = xs.findSome? g := by
  induction xs with
  | nil => rfl
  | cons x xs ih =>
    obtain ⟨here, later⟩ := List.forall_mem_cons.mp each
    rw [List.mapM_cons, List.findSome?_cons, ← ih later, ← here]
    cases f x with
    | error err => rfl
    | ok y => cases xs.mapM f <;> rfl

end ClassForge
