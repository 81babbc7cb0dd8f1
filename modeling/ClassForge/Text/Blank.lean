/-!
White space. A character is blank when Unicode gives it the property White_Space; trimming drops
blank characters from the ends of a text and touches nothing between them.
-/
namespace ClassForge.Text

def isBlank (c : Char) : Bool :=
  let n := c.toNat
  (0x9 ≤ n && n ≤ 0xD) || n == 0x20 || n == 0x85 || n == 0xA0 || n == 0x1680 ||
    (0x2000 ≤ n && n ≤ 0x200A) || n == 0x2028 || n == 0x2029 || n == 0x202F || n == 0x205F ||
    n == 0x3000

def trimLeft (cs : List Char) : List Char := cs.dropWhile isBlank

def trimRight (cs : List Char) : List Char := (cs.reverse.dropWhile isBlank).reverse

def trim (cs : List Char) : List Char := trimRight (trimLeft cs)

def allBlank (cs : List Char) : Bool := cs.all isBlank

theorem trimLeft_append_of_blank {blanks cs : List Char} (blank : ∀ c ∈ blanks, isBlank c) :
    trimLeft (blanks ++ cs) = trimLeft cs :=
  List.dropWhile_append_of_pos blank

theorem exists_blanks_append_trimLeft (cs : List Char) :
    ∃ blanks, (∀ c ∈ blanks, isBlank c) ∧ cs = blanks ++ trimLeft cs :=
  ⟨cs.takeWhile isBlank, List.all_eq_true.mp List.all_takeWhile,
    List.takeWhile_append_dropWhile.symm⟩

theorem trim_prefix_trimLeft (cs : List Char) : trim cs <+: trimLeft cs := by
  rw [trim, trimRight, ← List.reverse_suffix, List.reverse_reverse]
  exact List.dropWhile_suffix isBlank

theorem trim_of_unblank {cs : List Char} (unblank : ∀ c ∈ cs, isBlank c = false) :
    trim cs = cs := by
  have kept : ∀ ds : List Char, (∀ c ∈ ds, isBlank c = false) → ds.dropWhile isBlank = ds := by
    intro ds unblank
    cases ds with
    | nil => rfl
    | cons c ds => rw [List.dropWhile_cons_of_neg (by simp [unblank c])]
  rw [trim, trimLeft, kept cs unblank, trimRight, kept _ (by simpa using unblank),
    List.reverse_reverse]

end ClassForge.Text
