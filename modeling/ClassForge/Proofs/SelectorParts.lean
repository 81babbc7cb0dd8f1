import ClassForge.Selector

/-!
The parts of a selector. A part has an address: which member to go down to, again and again. In
ascending order the addresses go through a selector as it is written, every part before its members
and the members from left to right.
-/
namespace ClassForge.Selector
variable {π : Type}

def members : Selector π → List (Selector π)
  | .allOf ms => ms
  | .anyOf ms => ms
  | .except m => [m]
  | _ => []

def part? (s : Selector π) : List Nat → Option (Selector π)
  | [] => some s
  | i :: address => s.members[i]?.bind (part? · address)

theorem part?_cons {s part : Selector π} {i : Nat} {address : List Nat} :
    s.part? (i :: address) = some part ↔
      ∃ m, s.members[i]? = some m ∧ m.part? address = some part :=
  Option.bind_eq_some_iff

mutual

theorem member_induction {motive : Selector π → Prop}
    (step : ∀ s, (∀ m ∈ s.members, motive m) → motive s) : ∀ s, motive s
  | .everything => step _ nofun
  | .nothing => step _ nofun
  | .named _ => step _ nofun
  | .startsWith _ => step _ nofun
  | .endsWith _ => step _ nofun
  | .contains _ => step _ nofun
  | .matching _ => step _ nofun
  | .inPackage _ => step _ nofun
  | .allOf ms => step _ (member_induction_all step ms)
  | .anyOf ms => step _ (member_induction_all step ms)
  | .except m => step _ (List.forall_mem_singleton.mpr (member_induction step m))

theorem member_induction_all {motive : Selector π → Prop}
    (step : ∀ s, (∀ m ∈ s.members, motive m) → motive s) :
    ∀ ms : List (Selector π), ∀ m ∈ ms, motive m
  | [] => nofun
  | m :: ms => List.forall_mem_cons.mpr ⟨member_induction step m, member_induction_all step ms⟩

end

end ClassForge.Selector
