/-!
Positional notation. `digits base n` lists the digits of `n`, the most significant first and none
for zero; `value base` reads such a list back. Decimal and octal texts are built from these.
-/
namespace ClassForge.Number

def digits (base n : Nat) : List Nat :=
  if _h : 2 ≤ base ∧ 0 < n then digits base (n / base) ++ [n % base] else []
termination_by n
decreasing_by exact Nat.div_lt_self _h.2 _h.1

def value (base : Nat) (ds : List Nat) : Nat := ds.foldl (fun acc d => acc * base + d) 0

theorem value_append_singleton (base : Nat) (ds : List Nat) (d : Nat) :
    value base (ds ++ [d]) = value base ds * base + d := by
  simp [value, List.foldl_append]

theorem value_digits {base : Nat} (atLeastTwo : 2 ≤ base) (n : Nat) :
    value base (digits base n) = n := by
  induction n using Nat.strongRecOn with
  | ind n ih =>
    rw [digits]
    split
    · rename_i h
      rw [value_append_singleton, ih _ (Nat.div_lt_self h.2 h.1), Nat.mul_comm]
      exact Nat.div_add_mod n base
    · rename_i h
      have : n = 0 := by omega
      simp [value, this]

theorem digits_lt {base : Nat} (atLeastTwo : 2 ≤ base) (n : Nat) :
    ∀ d ∈ digits base n, d < base := by
  induction n using Nat.strongRecOn with
  | ind n ih =>
    rw [digits]
    split
    · rename_i h
      intro d member
      rcases List.mem_append.mp member with left | right
      · exact ih _ (Nat.div_lt_self h.2 h.1) d left
      · simp only [List.mem_singleton] at right
        subst right
        exact Nat.mod_lt _ (by omega)
    · simp

def digitChar (d : Nat) : Char :=
  if d < 10 then Char.ofNat (48 + d) else Char.ofNat (87 + d)

def digitValue? (base : Nat) (c : Char) : Option Nat :=
  let n := c.toNat
  let d :=
    if 48 ≤ n && n ≤ 57 then some (n - 48)
    else if 97 ≤ n && n ≤ 102 then some (n - 87)
    else if 65 ≤ n && n ≤ 70 then some (n - 55)
    else none
  d.filter (· < base)

def render (base n : Nat) : List Char :=
  match digits base n with
  | [] => ['0']
  | ds => ds.map digitChar

def decimal (n : Nat) : String := String.ofList (render 10 n)

def readDigits? (base : Nat) (cs : List Char) : Option (List Nat) := cs.mapM (digitValue? base)

/-- A number of at least one digit, with an optional plus sign, that does not exceed `limit`.
Leading zeros are allowed. -/
def readUnsigned? (base limit : Nat) (cs : List Char) : Option Nat :=
  let body := match cs with
    | '+' :: r => r
    | _ => cs
  if body.isEmpty then none
  else ((readDigits? base body).map (value base)).filter (· ≤ limit)

end ClassForge.Number
