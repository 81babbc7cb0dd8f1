import ClassForge.Proofs.FaultPaths
import ClassForge.Pattern.Engine
import ClassForge.Proofs.PatternSearch
import ClassForge.Succeeds

/-!
Compiling selectors. A selector is compiled when all its patterns can be read, and otherwise refused
for the first one that cannot, which is also the first one that validation finds. What is compiled
accepts the types that the selector means as it is written.
-/
namespace ClassForge
open List (Forall₂)

namespace Settings

/-- Compiling refuses a pattern, but has nothing against a list without members. -/
def SelectorFault.refusal? : SelectorFault → Option ConfigFault
  | .pattern text detail => some (.pattern text detail)
  | .noMembers => none

theorem refusal?_below (i : Nat) (faults : List (List Nat × SelectorFault)) :
    (faults.map fun (path, fault) => (i :: path, fault)).findSome? (·.2.refusal?) =
      faults.findSome? (·.2.refusal?) := by
  rw [List.findSome?_map]
  rfl

variable [PatternEngine]

def refusal? (s : Declared) : Option ConfigFault :=
  (selectorFaults s).findSome? fun fault => fault.2.refusal?

mutual

/-- A selector is compiled unless validation finds a pattern in it that cannot be read. -/
theorem compile_fault : ∀ s : Declared, faultOf? s.compile = refusal? s
  | .everything => rfl
  | .nothing => rfl
  | .named _ => rfl
  | .startsWith _ => rfl
  | .endsWith _ => rfl
  | .contains _ => rfl
  | .inPackage _ => rfl
  | .matching text => by
    rw [Selector.compile, Selector.traverse, refusal?, selectorFaults, faultOf?_map]
    cases NamePattern.ofText text <;> rfl
  | .allOf ms => by
    rw [Selector.compile, Selector.traverse, refusal?, selectorFaults, faultOf?_map,
      compileAll_fault 0 ms]
    cases ms <;> simp [SelectorFault.refusal?]
  | .anyOf ms => by
    rw [Selector.compile, Selector.traverse, refusal?, selectorFaults, faultOf?_map,
      compileAll_fault 0 ms]
    cases ms <;> simp [SelectorFault.refusal?]
  | .except m => by
    rw [Selector.compile, Selector.traverse, refusal?, selectorFaults, faultOf?_map]
    exact compile_fault m

theorem compileAll_fault : ∀ (i : Nat) (ms : List Declared),
    faultOf? (Selector.traverseAll (fun text => (NamePattern.ofText text).mapError (.pattern text))
      ms) = (memberFaults i ms).findSome? fun fault => fault.2.refusal?
  | _, [] => rfl
  | i, m :: ms => by
    have first := compile_fault m
    have rest := compileAll_fault (i + 1) ms
    rw [Selector.traverseAll, memberFaults, List.findSome?_append, refusal?_below, ← rest]
    rw [refusal?, Selector.compile] at first
    rw [← first]
    cases m.traverse fun text => (NamePattern.ofText text).mapError (ConfigFault.pattern text) with
    | error err => rfl
    | ok m' => exact faultOf?_map _ _

end

end Settings

namespace Selector

theorem refusal?_iff {fault : Settings.SelectorFault} {refused : ConfigFault} :
    fault.refusal? = some refused ↔
      ∃ text detail, fault = .pattern text detail ∧ refused = .pattern text detail := by
  cases fault with
  | pattern text detail => simp [Settings.SelectorFault.refusal?, eq_comm]
  | noMembers => simp [Settings.SelectorFault.refusal?]

theorem refusal?_eq_none {fault : Settings.SelectorFault} :
    fault.refusal? = none ↔ ∀ text detail, fault ≠ .pattern text detail := by
  cases fault <;> simp [Settings.SelectorFault.refusal?]

theorem members_compiled {f : String → Except ConfigFault NamePattern} {ms : List Declared}
    {ms' : List Matcher} (compiled : traverseAll f ms = .ok ms') :
    Forall₂ (fun m m' => traverse f m = .ok m') ms ms' := by
  induction ms generalizing ms' with
  | nil =>
    obtain rfl := Except.ok.inj compiled
    exact .nil
  | cons m ms ih =>
    rw [traverseAll] at compiled
    split at compiled
    · cases compiled
    · rename_i m' first
      obtain ⟨rest, later, rfl⟩ := map_succeeds compiled
      exact .cons first (ih later)

theorem inPackage_iff (t : TypeName) (package : String) : t.package?.getD "" = package ↔
    (∃ simple, t.name.toList = package.toList ++ '.' :: simple ∧ '.' ∉ simple) ∨
      package = "" ∧ '.' ∉ t.name.toList := by
  rw [TypeName.package?]
  cases cut : Text.cutLast '.' t.name.toList with
  | none =>
    have undotted := Text.cutLast_eq_none_iff.mp cut
    constructor
    · rintro rfl
      exact Or.inr ⟨rfl, undotted⟩
    · rintro (⟨simple, whole, -⟩ | ⟨rfl, -⟩)
      · exact absurd (by simp [whole]) undotted
      · rfl
  | some parts =>
    obtain ⟨before, after⟩ := parts
    obtain ⟨whole, undotted⟩ := Text.cutLast_eq_some_iff.mp cut
    constructor
    · rintro rfl
      exact Or.inl ⟨after, by simpa using whole, undotted⟩
    · rintro (⟨simple, whole', undotted'⟩ | ⟨-, none⟩)
      · have same := cut.symm.trans (Text.cutLast_eq_some_iff.mpr ⟨whole', undotted'⟩)
        obtain ⟨rfl, -⟩ := Prod.mk.inj (Option.some.inj same)
        exact String.ofList_toList
      · exact absurd (by simp [whole]) none

section
variable {α β : Type} {holds : α → Prop} {holds' : β → Prop} {xs : List α} {ys : List β}

theorem all_alike (alike : Forall₂ (fun x y => holds' y ↔ holds x) xs ys) :
    (∀ y ∈ ys, holds' y) ↔ ∀ x ∈ xs, holds x := by
  induction alike with
  | nil => simp
  | cons first _ ih => rw [List.forall_mem_cons, List.forall_mem_cons, first, ih]

theorem any_alike (alike : Forall₂ (fun x y => holds' y ↔ holds x) xs ys) :
    (∃ y ∈ ys, holds' y) ↔ ∃ x ∈ xs, holds x := by
  induction alike with
  | nil => simp
  | cons first _ ih => rw [List.exists_mem_cons_iff, List.exists_mem_cons_iff, first, ih]

end

section
variable [PatternEngine]

def Means (t : TypeName) : Declared → Prop
  | .everything => True
  | .nothing => False
  | .named name => t.name = name
  | .startsWith start => start.toList <+: t.name.toList
  | .endsWith stop => stop.toList <:+ t.name.toList
  | .contains part => part.toList <:+: t.name.toList
  | .matching text => ∃ found, PatternEngine.compile text = .ok found ∧ found t.name = true
  | .inPackage package =>
    (∃ simple, t.name.toList = package.toList ++ '.' :: simple ∧ '.' ∉ simple) ∨
      package = "" ∧ '.' ∉ t.name.toList
  | .allOf ms => ∀ m ∈ ms, Means t m
  | .anyOf ms => ∃ m, ∃ _ : m ∈ ms, Means t m
  | .except m => ¬Means t m

inductive Refused (d : Declared) (address : List Nat) : ConfigFault → Prop where
  | pattern {text message} (there : d.part? address = some (.matching text))
      (unread : PatternEngine.compile text = .error message) :
      Refused d address (.pattern text (.pattern message))

structure CompiledAsWritten (d : Declared) : Prop where
  compiles_iff : (∃ m, d.compile = .ok m) ↔
    ∀ address text, d.part? address = some (.matching text) →
      ∃ found, PatternEngine.compile text = .ok found
  unreported_iff : (∃ m, d.compile = .ok m) ↔
    ∀ told ∈ Settings.selectorFaults d, ∀ text detail, told.2 ≠ .pattern text detail
  refused_iff : ∀ fault, d.compile = .error fault ↔ ∃ address, Refused d address fault ∧
    ∀ address' < address, ∀ fault', ¬Refused d address' fault'
  reported_iff : ∀ fault, d.compile = .error fault ↔
    (Settings.selectorFaults d).findSome? (fun told => told.2.refusal?) = some fault
  accepts_iff : ∀ m, d.compile = .ok m → ∀ t, m.accepts t = true ↔ Means t d

variable {d : Declared} {t : TypeName}

theorem ofText_error {text : String} {detail : Detail} :
    NamePattern.ofText text = .error detail ↔
      ∃ message, PatternEngine.compile text = .error message ∧ detail = .pattern message := by
  unfold NamePattern.ofText
  cases PatternEngine.compile text with
  | ok found => simp
  | error message => simp [eq_comm]

theorem ofText_ok {text : String} {p : NamePattern} (read : NamePattern.ofText text = .ok p) :
    PatternEngine.compile text = .ok p.found := by
  unfold NamePattern.ofText at read
  split at read
  · rename_i found compiled
    obtain rfl := Except.ok.inj read
    exact compiled
  · cases read

theorem refused_iff_blamed {address : List Nat} {refused : ConfigFault} :
    Refused d address refused ↔
      ∃ told, Settings.Blames d address told ∧ told.2.refusal? = some refused := by
  constructor
  · rintro ⟨there, unread⟩
    obtain ⟨path, leads⟩ := Leads.exists_of_part there nofun
    have faulty := Settings.HasFault.pattern (ofText_error.mpr ⟨_, unread, rfl⟩)
    exact ⟨(path, _), ⟨⟨_, there, faulty⟩, leads⟩, rfl⟩
  · rintro ⟨⟨path, fault⟩, ⟨⟨part, there, faulty⟩, -⟩, same⟩
    obtain ⟨text, detail, rfl, rfl⟩ := refusal?_iff.mp same
    cases faulty with
    | pattern unread =>
      obtain ⟨message, uncompiled, rfl⟩ := ofText_error.mp unread
      exact .pattern there uncompiled

theorem unrefused_at_iff {address : List Nat} :
    (∀ told, Settings.Blames d address told → told.2.refusal? = none) ↔
      ∀ refused, ¬Refused d address refused := by
  simp only [refused_iff_blamed, not_exists, not_and, Option.eq_none_iff_forall_ne_some]
  exact ⟨fun quiet refused told blamed => quiet told blamed refused,
    fun quiet told blamed refused => quiet refused told blamed⟩

theorem compile_ok_iff : (∃ m, d.compile = .ok m) ↔
    ∀ told ∈ Settings.selectorFaults d, told.2.refusal? = none := by
  rw [← faultOf?_eq_none, Settings.compile_fault, Settings.refusal?, List.findSome?_eq_none_iff]

theorem compile_error_iff {refused : ConfigFault} : d.compile = .error refused ↔
    (Settings.selectorFaults d).findSome? (fun told => told.2.refusal?) = some refused := by
  rw [← faultOf?_eq_some, Settings.compile_fault, Settings.refusal?]

theorem unrefused_iff :
    (∃ m, d.compile = .ok m) ↔ ∀ address refused, ¬Refused d address refused := by
  simp only [compile_ok_iff, (Settings.selectorFaults_recount d).mem_iff, ← unrefused_at_iff]
  exact ⟨fun quiet address told blamed => quiet told ⟨address, blamed⟩,
    fun quiet told ⟨address, blamed⟩ => quiet address told blamed⟩

theorem accepts_compiled (t : TypeName) (d : Declared) :
    ∀ m, d.compile = .ok m → (m.accepts t = true ↔ Means t d) := by
  induction d using member_induction with
  | step d ih =>
    have members {ms : List Declared} {ms' : List Matcher} (inside : ∀ m ∈ ms, m ∈ d.members)
        (compiled : traverseAll (fun text =>
          (NamePattern.ofText text).mapError (ConfigFault.pattern text)) ms = .ok ms') :
        Forall₂ (fun m m' => m'.accepts t = true ↔ Means t m) ms ms' := by
      have each := (List.forall₂_and_left _ _).mpr
        ⟨fun m member => ih m (inside m member), members_compiled compiled⟩
      exact each.imp fun m m' ⟨same, done⟩ => same m' done
    intro m compiled
    rw [compile] at compiled
    cases d with
    | matching text =>
      obtain ⟨p, read, rfl⟩ := map_succeeds compiled
      have search := ofText_ok (mapError_eq_ok.mp read)
      rw [accepts, Means]
      simp [search]
    | inPackage package =>
      obtain rfl := Except.ok.inj compiled
      rw [accepts, beq_iff_eq, inPackage_iff, Means]
    | allOf ms =>
      obtain ⟨ms', read, rfl⟩ := map_succeeds compiled
      rw [accepts, acceptedByAll_eq, List.all_eq_true, Means]
      exact all_alike (members (fun _ inside => inside) read)
    | anyOf ms =>
      obtain ⟨ms', read, rfl⟩ := map_succeeds compiled
      rw [accepts, acceptedByAny_eq, List.any_eq_true, Means]
      simp only [exists_prop]
      exact any_alike (members (fun _ inside => inside) read)
    | except inner =>
      obtain ⟨inner', read, rfl⟩ := map_succeeds compiled
      have same := ih inner (List.mem_singleton_self inner) inner' read
      rw [accepts, Bool.not_eq_true', Means, ← same, Bool.not_eq_true]
    | _ =>
      obtain rfl := Except.ok.inj compiled
      simp [accepts, Means, Text.occurs_iff]

/-- A selector is compiled unless one of its patterns cannot be read, which is when validation finds
fault with one; it is refused for the first of them. What is compiled accepts what is meant. -/
theorem compiled_as_written (d : Declared) : CompiledAsWritten d := by
  constructor
  case compiles_iff =>
    rw [unrefused_iff]
    constructor
    · intro fine address text there
      cases search : PatternEngine.compile text with
      | ok found => exact ⟨found, rfl⟩
      | error message => exact absurd (.pattern there search) (fine address _)
    · rintro readable address _ ⟨there, unread⟩
      obtain ⟨found, read⟩ := readable address _ there
      cases read.symm.trans unread
  case unreported_iff =>
    rw [compile_ok_iff]
    exact forall₂_congr fun told _ => refusal?_eq_none
  case refused_iff =>
    intro refused
    rw [compile_error_iff, (Settings.selectorFaults_recount d).findSome?_eq_some_iff
      (fun _ => List.lt_irrefl _) (fun _ _ _ => List.lt_trans)]
    constructor
    · rintro ⟨address, told, blamed, same, first⟩
      refine ⟨address, refused_iff_blamed.mpr ⟨told, blamed, same⟩, fun address' earlier => ?_⟩
      exact unrefused_at_iff.mp fun told' blamed' => first address' told' blamed' earlier
    · rintro ⟨address, here, first⟩
      obtain ⟨told, blamed, same⟩ := refused_iff_blamed.mp here
      refine ⟨address, told, blamed, same, fun address' told' blamed' earlier => ?_⟩
      exact unrefused_at_iff.mpr (first address' earlier) told' blamed'
  case reported_iff => exact fun _ => compile_error_iff
  case accepts_iff => exact fun m compiled t => accepts_compiled t d m compiled

end

open scoped Pattern in
/-- With the engine of this library a pattern means that a match of its tree is part of the name. -/
theorem means_matching_iff (t : TypeName) (text : String) :
    Means t (.matching text) ↔ ∃ tree, Pattern.parse text = .ok tree ∧ tree.OccursIn t.name := by
  rw [Means, PatternEngine.compile]
  dsimp only [Pattern.engine]
  cases Pattern.parse text with
  | ok tree => simp [Pattern.found_iff]
  | error fault => simp

end Selector
end ClassForge
