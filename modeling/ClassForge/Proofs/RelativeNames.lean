import ClassForge.TypePool

/-!
Names of entries without what archivers put in front of them. Every name is a run of leads and a
rest that begins with none, in one way only; the relative name is that rest.
-/
namespace ClassForge.TypePool

/-- What may be put in front of a name: `./` or `/`. -/
inductive Lead where
  | here
  | root
  deriving DecidableEq, Repr

def Lead.text : Lead → List Char
  | .here => ['.', '/']
  | .root => ['/']

def leading (leads : List Lead) : List Char := leads.flatMap Lead.text

def Unled (cs : List Char) : Prop := ∀ l : Lead, ¬l.text <+: cs

theorem unled_iff {cs : List Char} : Unled cs ↔ ¬['.', '/'] <+: cs ∧ ¬['/'] <+: cs := by
  constructor
  · exact fun unled => ⟨unled .here, unled .root⟩
  · rintro ⟨here, root⟩ (_ | _)
    · exact here
    · exact root

theorem Lead.unique {l l' : Lead} {cs cs' : List Char} (same : l.text ++ cs = l'.text ++ cs') :
    l = l' ∧ cs = cs' := by
  cases l <;> cases l' <;> simp_all [Lead.text]

theorem relative_lead (l : Lead) (cs : List Char) : relative (l.text ++ cs) = relative cs := by
  cases l <;> rw [Lead.text] <;> simp only [List.cons_append, List.nil_append, relative]

theorem relative_leading (leads : List Lead) (cs : List Char) :
    relative (leading leads ++ cs) = relative cs := by
  induction leads with
  | nil => rfl
  | cons l leads ih =>
    rw [leading, List.flatMap_cons, List.append_assoc, relative_lead]
    exact ih

theorem relative_of_unled {cs : List Char} (unled : Unled cs) : relative cs = cs := by
  unfold relative
  split
  · exact absurd (List.prefix_append ['/'] _) (unled .root)
  · exact absurd (List.prefix_append ['.', '/'] _) (unled .here)
  · rfl

/-- A run of leads, and a rest that begins with none. -/
structure Led (cs : List Char) (leads : List Lead) (rest : List Char) : Prop where
  whole : cs = leading leads ++ rest
  unled : Unled rest

theorem led_relative (cs : List Char) : ∃ leads, Led cs leads (relative cs) := by
  fun_induction relative cs with
  | case1 cs ih =>
    obtain ⟨leads, whole, unled⟩ := ih
    exact ⟨.root :: leads, congrArg ('/' :: ·) whole, unled⟩
  | case2 cs ih =>
    obtain ⟨leads, whole, unled⟩ := ih
    exact ⟨.here :: leads, congrArg (['.', '/'] ++ ·) whole, unled⟩
  | case3 cs noRoot noHere =>
    refine ⟨[], rfl, unled_iff.mpr ⟨?_, ?_⟩⟩
    · rintro ⟨rest, rfl⟩
      exact noHere rest rfl
    · rintro ⟨rest, rfl⟩
      exact noRoot rest rfl

theorem unled_relative (cs : List Char) : Unled (relative cs) :=
  (led_relative cs).choose_spec.unled

theorem Led.rest_eq {cs rest : List Char} {leads : List Lead} (led : Led cs leads rest) :
    rest = relative cs := by
  rw [led.whole, relative_leading, relative_of_unled led.unled]

theorem Led.longest {cs rest rest' : List Char} {leads leads' : List Lead} (led : Led cs leads rest)
    (whole : cs = leading leads' ++ rest') : leads' <+: leads := by
  obtain ⟨cut, unled⟩ := led
  subst cut
  induction leads' generalizing leads with
  | nil => exact List.nil_prefix
  | cons l' leads' ih =>
    cases leads with
    | nil =>
      -- The longer run would have a lead where the rest begins.
      refine absurd ?_ (unled l')
      rw [show rest = leading (l' :: leads') ++ rest' from whole, leading, List.flatMap_cons,
        List.append_assoc]
      exact List.prefix_append _ _
    | cons l leads =>
      simp only [leading, List.flatMap_cons, List.append_assoc] at whole
      obtain ⟨rfl, later⟩ := Lead.unique whole
      exact (List.prefix_cons_inj l).mpr (ih later)

theorem Led.unique {cs rest rest' : List Char} {leads leads' : List Lead} (led : Led cs leads rest)
    (led' : Led cs leads' rest') : leads' = leads ∧ rest' = rest := by
  refine ⟨?_, led'.rest_eq.trans led.rest_eq.symm⟩
  exact (led.longest led'.whole).eq_of_length_le (led'.longest led.whole).length_le

end ClassForge.TypePool
