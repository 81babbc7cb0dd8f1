import ClassForge.Number.Digits

/-!
Numbers as texts. A number is read back from its text, whatever zeros are put in front of its
digits, so that different numbers have different texts.
-/
namespace ClassForge.Number

def capacity (base : Nat) : Nat → Nat
  | 0 => 1
  | length + 1 => capacity base length * base

theorem digits_length {base : Nat} (n length : Nat) (fits : n < capacity base length) :
    (digits base n).length ≤ length := by
  induction length generalizing n with
  | zero =>
    have none : n = 0 := by simpa [capacity] using fits
    rw [digits, dif_neg (by omega)]
    exact Nat.le_refl 0
  | succ length ih =>
    rw [digits]
    split
    · have shorter : n / base < capacity base length := by
        rw [Nat.div_lt_iff_lt_mul (by omega)]
        exact fits
      simpa using ih _ shorter
    · simp

theorem value_zeros (base k : Nat) (ds : List Nat) :
    value base (List.replicate k 0 ++ ds) = value base ds := by
  induction k with
  | zero => rfl
  | succ k ih =>
    rw [List.replicate_succ, List.cons_append, value, List.foldl_cons, Nat.zero_mul]
    exact ih

theorem digitValue?_digitChar {base d : Nat} (known : base ≤ 16) (small : d < base) :
    digitValue? base (digitChar d) = some d := by
  have read : ∀ d < 16, digitValue? 16 (digitChar d) = some d := by decide
  have found := read d (by omega)
  simp only [digitValue?, Option.filter_eq_some_iff] at found ⊢
  exact ⟨found.1, by simpa using small⟩

theorem render_digits {base : Nat} (atLeastTwo : 2 ≤ base) (n : Nat) :
    ∃ ds, ds ≠ [] ∧ ds.length = max 1 (digits base n).length ∧ (∀ d ∈ ds, d < base) ∧
      value base ds = n ∧ render base n = ds.map digitChar := by
  rw [render]
  split
  · rename_i zero
    have worth : value base [0] = n := by
      rw [← value_digits atLeastTwo n, zero]
      simp [value]
    exact ⟨[0], by simp, by simp [zero], by simp; omega, worth, rfl⟩
  · rename_i some
    have size : 0 < (digits base n).length := List.length_pos_iff.mpr some
    exact ⟨digits base n, some, by omega, digits_lt atLeastTwo n, value_digits atLeastTwo n, rfl⟩

theorem readUnsigned?_digits {base limit : Nat} {ds : List Nat} (known : base ≤ 16)
    (small : ∀ d ∈ ds, d < base) (some : ds ≠ []) (within : value base ds ≤ limit) :
    readUnsigned? base limit (ds.map digitChar) = Option.some (value base ds) := by
  have unsigned : ∀ d < 16, digitChar d ≠ '+' := by decide
  have read : readDigits? base (ds.map digitChar) = Option.some ds := by
    clear some within
    induction ds with
    | nil => rfl
    | cons d rest ih =>
      obtain ⟨here, later⟩ := List.forall_mem_cons.mp small
      rw [readDigits?] at ih ⊢
      simp [digitValue?_digitChar known here, ih later]
  have signless : ∀ r, ds.map digitChar = '+' :: r → False := by
    intro r signed
    cases ds with
    | nil => cases signed
    | cons d rest =>
      have here := small d List.mem_cons_self
      exact unsigned d (by omega) (List.cons.inj signed).1
  rw [readUnsigned?]
  · simpa [read, some] using within
  · exact signless

theorem readUnsigned?_render {base limit n : Nat} (atLeastTwo : 2 ≤ base) (known : base ≤ 16)
    (within : n ≤ limit) : readUnsigned? base limit (render base n) = some n := by
  obtain ⟨ds, filled, -, small, worth, shown⟩ := render_digits atLeastTwo n
  rw [shown, readUnsigned?_digits known small filled (by rwa [worth]), worth]

theorem render_injective {base : Nat} (atLeastTwo : 2 ≤ base) (known : base ≤ 16) :
    ∀ n m, render base n = render base m → n = m := by
  intro n m same
  have first := readUnsigned?_render atLeastTwo known (Nat.le_max_left n m)
  have second := readUnsigned?_render atLeastTwo known (Nat.le_max_right n m)
  exact Option.some.inj (first.symm.trans ((congrArg _ same).trans second))

end ClassForge.Number
