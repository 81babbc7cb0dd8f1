import ClassForge.Proofs.NumberTexts
import ClassForge.Proofs.OrderedReports
import ClassForge.Proofs.SelectorParts
import ClassForge.Settings.Validation

/-!
The paths under which faulty parts of selectors are told of. A path counts members, but not what a
negation is of; it leads through negations to the first part that is none. No two faulty parts have
the same path, and the text of a path can be read in one way only.
-/
namespace ClassForge

namespace Selector
variable {π : Type}

/-- Following a path: it goes through negations by itself, and takes a position for every list of
members. -/
inductive Leads : Selector π → List Nat → List Nat → Prop where
  | arrived {s} (affirmed : ∀ m, s ≠ .except m) : Leads s [] []
  | negation {m path address} (inside : Leads m path address) :
      Leads (.except m) path (0 :: address)
  | member {s m i path address} (affirmed : ∀ m, s ≠ .except m) (there : s.members[i]? = some m)
      (inside : Leads m path address) : Leads s (i :: path) (i :: address)

def mark : Selector π → Nat → List Nat
  | .except _, _ => []
  | _, i => [i]

variable {s m : Selector π} {i : Nat} {path address address' : List Nat}

theorem mark_affirmed (affirmed : ∀ m, s ≠ .except m) (i : Nat) : s.mark i = [i] := by
  cases s with
  | except m => exact absurd rfl (affirmed m)
  | _ => rfl

namespace Leads

theorem root_iff : s.Leads path [] ↔ path = [] ∧ ∀ m, s ≠ .except m := by
  constructor
  · rintro ⟨affirmed⟩
    exact ⟨rfl, affirmed⟩
  · rintro ⟨rfl, affirmed⟩
    exact .arrived affirmed

theorem below_iff : s.Leads path (i :: address) ↔
    ∃ m rest, s.members[i]? = some m ∧ m.Leads rest address ∧ path = s.mark i ++ rest := by
  constructor
  · intro leads
    cases leads with
    | negation inside => exact ⟨_, _, rfl, inside, rfl⟩
    | member affirmed there inside =>
      exact ⟨_, _, there, inside, by rw [mark_affirmed affirmed, List.singleton_append]⟩
  · rintro ⟨m, rest, there, inside, rfl⟩
    cases s with
    | except m' =>
      cases i with
      | zero =>
        obtain rfl := Option.some.inj there
        exact .negation inside
      | succ i => cases there
    | _ => exact .member nofun there inside

theorem exists_of_part (there : s.part? address = some m) (affirmed : ∀ inner, m ≠ .except inner) :
    ∃ path, s.Leads path address := by
  induction address generalizing s with
  | nil =>
    obtain rfl := Option.some.inj there
    exact ⟨[], .arrived affirmed⟩
  | cons i address ih =>
    obtain ⟨member, here, below⟩ := part?_cons.mp there
    obtain ⟨path, inside⟩ := ih below
    exact ⟨s.mark i ++ path, below_iff.mpr ⟨member, path, here, inside, rfl⟩⟩

theorem unique (leads : s.Leads path address) (leads' : s.Leads path address') :
    address = address' := by
  induction leads generalizing address' with
  | arrived affirmed =>
    cases leads' with
    | arrived => rfl
    | negation => exact absurd rfl (affirmed _)
  | negation inside ih =>
    cases leads' with
    | arrived affirmed => exact absurd rfl (affirmed _)
    | negation inside' => rw [ih inside']
    | member affirmed => exact absurd rfl (affirmed _)
  | member affirmed there inside ih =>
    cases leads' with
    | negation => exact absurd rfl (affirmed _)
    | member _ there' inside' =>
      obtain rfl := Option.some.inj (there.symm.trans there')
      rw [ih inside']

end Leads
end Selector

namespace Settings

section
variable {d : Declared} [PatternEngine]

/-- What is wrong with a selector itself, whatever is wrong with its members. -/
inductive HasFault : Declared → SelectorFault → Prop where
  | pattern {text detail} (refused : NamePattern.ofText text = .error detail) :
      HasFault (.matching text) (.pattern text detail)
  | conjunction : HasFault (.allOf []) .noMembers
  | disjunction : HasFault (.anyOf []) .noMembers

theorem HasFault.affirmed {fault : SelectorFault} (h : HasFault d fault) :
    ∀ m, d ≠ .except m := by
  cases h <;> exact nofun

/-- What is told of a part: its own fault, under the path that leads to it. -/
structure Blames (d : Declared) (address : List Nat) (told : List Nat × SelectorFault) : Prop where
  faulty : ∃ part, d.part? address = some part ∧ HasFault part told.2
  leads : d.Leads told.1 address

theorem blames_root {told : List Nat × SelectorFault} :
    Blames d [] told ↔ told.1 = [] ∧ HasFault d told.2 := by
  constructor
  · rintro ⟨⟨part, ⟨⟩, fault⟩, leads⟩
    exact ⟨(Selector.Leads.root_iff.mp leads).1, fault⟩
  · rintro ⟨root, fault⟩
    exact ⟨⟨d, rfl, fault⟩, Selector.Leads.root_iff.mpr ⟨root, fault.affirmed⟩⟩

theorem blames_below {i : Nat} {address : List Nat} {told : List Nat × SelectorFault} :
    Blames d (i :: address) told ↔ ∃ m, d.members[i]? = some m ∧
      ∃ inner, Blames m address inner ∧ (d.mark i ++ inner.1, inner.2) = told := by
  constructor
  · rintro ⟨⟨part, found, fault⟩, leads⟩
    obtain ⟨m, there, inside⟩ := Selector.part?_cons.mp found
    obtain ⟨m', rest, there', leads', path⟩ := Selector.Leads.below_iff.mp leads
    obtain rfl := Option.some.inj (there.symm.trans there')
    exact ⟨m, there, (rest, told.2), ⟨⟨part, inside, fault⟩, leads'⟩, Prod.ext path.symm rfl⟩
  · rintro ⟨m, there, ⟨rest, fault⟩, ⟨⟨part, inside, faulty⟩, leads⟩, rfl⟩
    exact ⟨⟨part, Selector.part?_cons.mpr ⟨m, there, inside⟩, faulty⟩,
      Selector.Leads.below_iff.mpr ⟨m, rest, there, leads, rfl⟩⟩

def innerFaults (d : Declared) : List (List Nat × SelectorFault) :=
  d.members.zipIdx.flatMap fun (m, i) =>
    (selectorFaults m).map fun (path, fault) => (d.mark i ++ path, fault)

theorem memberFaults_eq (i : Nat) (ms : List Declared) :
    memberFaults i ms = (ms.zipIdx i).flatMap fun (m, i) =>
      (selectorFaults m).map fun (path, fault) => (i :: path, fault) := by
  induction ms generalizing i with
  | nil => rfl
  | cons m ms ih => rw [memberFaults, ih, List.zipIdx_cons, List.flatMap_cons]

structure TellsOwn (d : Declared) (own : List (List Nat × SelectorFault)) : Prop where
  short : own.length ≤ 1
  mem_iff : ∀ told, told ∈ own ↔ told.1 = [] ∧ HasFault d told.2

theorem TellsOwn.faultless (none : ∀ fault, ¬HasFault d fault) : TellsOwn d [] :=
  ⟨Nat.zero_le 1, fun told => by simp [none]⟩

theorem TellsOwn.faulted {fault : SelectorFault}
    (only : ∀ fault', HasFault d fault' ↔ fault' = fault) : TellsOwn d [([], fault)] :=
  ⟨Nat.le_refl 1, fun told => by simp [only, Prod.ext_iff]⟩

theorem hasFault_matching {text : String} {fault : SelectorFault} :
    HasFault (.matching text) fault ↔
      ∃ detail, NamePattern.ofText text = .error detail ∧ fault = .pattern text detail := by
  constructor
  · rintro ⟨refused⟩
    exact ⟨_, refused, rfl⟩
  · rintro ⟨detail, refused, rfl⟩
    exact .pattern refused

theorem hasFault_allOf {fault : SelectorFault} :
    HasFault (.allOf []) fault ↔ fault = .noMembers := by
  constructor
  · rintro ⟨⟩
    rfl
  · rintro rfl
    exact .conjunction

theorem hasFault_anyOf {fault : SelectorFault} :
    HasFault (.anyOf []) fault ↔ fault = .noMembers := by
  constructor
  · rintro ⟨⟩
    rfl
  · rintro rfl
    exact .disjunction

theorem selectorFaults_eq (d : Declared) :
    ∃ own, selectorFaults d = own ++ innerFaults d ∧ TellsOwn d own := by
  cases d with
  | matching text =>
    cases read : NamePattern.ofText text with
    | ok pattern =>
      refine ⟨[], by rw [selectorFaults, read]; rfl, .faultless fun fault => ?_⟩
      simp [hasFault_matching, read]
    | error detail =>
      refine ⟨[([], .pattern text detail)], by rw [selectorFaults, read]; rfl,
        .faulted fun fault => ?_⟩
      simp [hasFault_matching, read]
  | allOf ms =>
    cases ms with
    | nil => exact ⟨[([], .noMembers)], rfl, .faulted fun _ => hasFault_allOf⟩
    | cons m ms => exact ⟨[], by rw [selectorFaults, memberFaults_eq]; rfl, .faultless nofun⟩
  | anyOf ms =>
    cases ms with
    | nil => exact ⟨[([], .noMembers)], rfl, .faulted fun _ => hasFault_anyOf⟩
    | cons m ms => exact ⟨[], by rw [selectorFaults, memberFaults_eq]; rfl, .faultless nofun⟩
  | except m =>
    refine ⟨[], ?_, .faultless nofun⟩
    simp [selectorFaults, innerFaults, Selector.members, Selector.mark]
  | _ => exact ⟨[], rfl, .faultless nofun⟩

theorem selectorFaults_recount (d : Declared) :
    Recounts (fun address address' => address < address') (Blames d) (selectorFaults d) := by
  induction d using Selector.member_induction with
  | step d ih =>
    obtain ⟨own, told, tellsOwn⟩ := selectorFaults_eq d
    have root : Recounts (· < ·) (fun (address : List Nat) told =>
        address = [] ∧ Blames d [] told) own :=
      .atMostOne [] (fun _ told => by rw [blames_root, tellsOwn.mem_iff]) tellsOwn.short
    have inner : Recounts (· < ·) (fun (address : List Nat) told =>
        ∃ i m, d.members[i]? = some m ∧ ∃ address' told', Blames m address' told' ∧
          i :: address' = address ∧ (d.mark i ++ told'.1, told'.2) = told) (innerFaults d) := by
      refine Recounts.along List.lt_irrefl d.members
        (fun i m address told => ∃ address' told', Blames m address' told' ∧
          i :: address' = address ∧ (d.mark i ++ told'.1, told'.2) = told)
        (fun i m => (selectorFaults m).map fun (path, fault) => (d.mark i ++ path, fault))
        (fun i m there => ?_) ?_
      · refine (ih m (List.mem_of_getElem? there)).relabelled ?_ ?_ _
        · exact fun _ _ same => (List.cons.inj same).2
        · exact fun _ _ earlier => List.cons_lt_cons_iff.mpr (Or.inr ⟨rfl, earlier⟩)
      · rintro i j m m' _ told _ told' earlier ⟨_, _, -, rfl, -⟩ ⟨_, _, -, rfl, -⟩
        exact List.cons_lt_cons_iff.mpr (Or.inl earlier)
    rw [told]
    refine (root.append List.lt_irrefl inner ?_).congr ?_
    · rintro _ a _ b ⟨rfl, -⟩ ⟨i, m, -, address, told, -, rfl, -⟩
      exact List.nil_lt_cons i address
    · intro address told
      cases address with
      | nil => simp
      | cons i address => simp [blames_below]

end

theorem position_toList (i : Nat) : (position i).toList = '[' :: (Number.render 10 i ++ [']']) := by
  simp [position, Number.decimal]

theorem position_undivided (i : Nat) : ']' ∉ Number.render 10 i := by
  obtain ⟨ds, -, -, small, -, shown⟩ := Number.render_digits (by decide : 2 ≤ 10) i
  have other : ∀ d < 10, Number.digitChar d ≠ ']' := by decide
  rw [shown, List.mem_map]
  rintro ⟨d, digit, same⟩
  exact other d (small d digit) same

theorem pathText_toList (base : String) (path : List Nat) :
    (pathText base path).toList = base.toList ++ path.flatMap fun i => (position i).toList := by
  induction path generalizing base with
  | nil => simp [pathText]
  | cons i path ih => rw [pathText, ih, String.toList_append, List.flatMap_cons, List.append_assoc]

theorem positions_injective :
    Function.Injective fun path : List Nat => path.flatMap fun i => (position i).toList := by
  intro path path' same
  induction path generalizing path' with
  | nil =>
    cases path' with
    | nil => rfl
    | cons j path' => simp [position_toList] at same
  | cons i path ih =>
    cases path' with
    | nil => simp [position_toList] at same
    | cons j path' =>
      -- the first closing bracket ends the first position
      have cut : Number.render 10 i ++ ']' :: (path.flatMap fun i => (position i).toList) =
          Number.render 10 j ++ ']' :: path'.flatMap fun i => (position i).toList := by
        simpa [position_toList] using same
      have first := Text.cutFirst_eq_some_iff.mpr ⟨cut, position_undivided j⟩
      rw [Text.cutFirst_eq_some_iff.mpr ⟨rfl, position_undivided i⟩] at first
      obtain ⟨number, rest⟩ := Prod.mk.inj (Option.some.inj first)
      rw [Number.render_injective (by decide) (by decide) i j number, ih rest]

theorem pathText_injective (base : String) : Function.Injective (pathText base) := by
  intro path path' same
  rw [← String.toList_inj, pathText_toList, pathText_toList] at same
  exact positions_injective (List.append_cancel_left same)

variable {d : Declared}

/-- However the text is read as that of a path, it leads to the address and nowhere else. -/
structure Pinpoints (base : String) (d : Declared) (text : String) (address : List Nat) : Prop where
  readable : ∃ path, pathText base path = text
  leads_iff : ∀ path, pathText base path = text →
    ∀ address', d.Leads path address' ↔ address' = address

theorem pinpoints_iff {base text : String} {address : List Nat} :
    Pinpoints base d text address ↔ ∃ path, d.Leads path address ∧ pathText base path = text := by
  constructor
  · rintro ⟨⟨path, read⟩, leads_iff⟩
    exact ⟨path, (leads_iff path read address).mpr rfl, read⟩
  · rintro ⟨path, leads, read⟩
    refine ⟨⟨path, read⟩, fun path' read' address' => ?_⟩
    obtain rfl := pathText_injective base (read'.trans read.symm)
    exact ⟨fun leads' => leads'.unique leads, fun same => same ▸ leads⟩

variable [PatternEngine]

def faultTexts (base : String) (d : Declared) : List (String × SelectorFault) :=
  (selectorFaults d).map fun (path, fault) => (pathText base path, fault)

/-- The faults of a selector are told of in order, each under a text that leads to its part. -/
structure TellsPlaces (base : String) (d : Declared) : Prop where
  recounts : Recounts (fun address address' : List Nat => address < address')
    (fun address told => (∃ part, d.part? address = some part ∧ HasFault part told.2) ∧
      Pinpoints base d told.1 address) (faultTexts base d)
  distinct : ((faultTexts base d).map (·.1)).Nodup
  /-- With such texts begin the messages about the selector of a plugin. -/
  messages_eq : ∀ plugin say,
    (selectorFaults d).map
        (fun (path, fault) => (Violation.selector plugin path fault).messageBy say) =
      (faultTexts ("plugins" ++ position plugin ++ ".matcher") d).map fun (text, fault) =>
        text ++ ": " ++ fault.messageBy say

/-- Whatever text its own place has, the text told of a faulty part of a selector leads to that part
alone. -/
theorem fault_texts_lead (base : String) (d : Declared) : TellsPlaces base d := by
  have recounts : Recounts (fun address address' : List Nat => address < address')
      (fun address told => (∃ part, d.part? address = some part ∧ HasFault part told.2) ∧
        Pinpoints base d told.1 address) (faultTexts base d) := by
    refine ((selectorFaults_recount d).relabelled Function.injective_id
      (fun _ _ earlier => earlier) _).congr fun address told => ?_
    rw [pinpoints_iff]
    constructor
    · rintro ⟨faulty, path, leads, read⟩
      exact ⟨address, (path, told.2), ⟨faulty, leads⟩, rfl, Prod.ext read rfl⟩
    · rintro ⟨_, ⟨path, fault⟩, ⟨faulty, leads⟩, rfl, rfl⟩
      exact ⟨faulty, path, leads, rfl⟩
  constructor
  case recounts => exact recounts
  case distinct =>
    refine List.pairwise_map.mpr (recounts.pairwise.imp ?_)
    rintro told told' ⟨address, address', earlier, ⟨-, ⟨path, read⟩, leads⟩, -, -, leads'⟩ same
    have here := (leads path read address).mpr rfl
    obtain rfl := (leads' path (read.trans same) address).mp here
    exact List.lt_irrefl address earlier
  case messages_eq =>
    intro plugin say
    rw [faultTexts, List.map_map]
    rfl

example : faultTexts "matcher" (.except (.anyOf [.everything, .except (.allOf [])])) =
    [("matcher[1]", .noMembers)] := by cbv

end Settings
end ClassForge
