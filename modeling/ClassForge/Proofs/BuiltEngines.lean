import ClassForge.Pattern.Engine
import ClassForge.Proofs.CompiledSelectors
import ClassForge.Proofs.DeclaredPlugins

/-!
When an engine for planning is built, and why it is refused otherwise. An error of the parts is the
first one in order: that of a pattern in a selector, of a selector among the chosen entries, or of a
name that is not registered. Valid settings leave nothing but the last.
-/
namespace ClassForge
open List (Forall₂)
variable {σ B : Type}

section
variable [PatternEngine]

namespace Planning

theorem entry_name (read : FileReader) (p : PluginDeclaration) :
    (entry read p : RegistryEntry σ PlanBuilder).name = p.name := by
  unfold entry
  split
  · rename_i m usable
    unfold Manifest.declared at usable
    split at usable
    · obtain rfl := Except.ok.inj usable
      rfl
    · split at usable
      · exact absurd usable nofun
      · split at usable
        · rename_i same
          obtain rfl := Except.ok.inj usable
          exact same
        · exact absurd usable nofun
  · rfl

theorem name_comp_entry (read : FileReader) :
    (fun x : RegistryEntry σ PlanBuilder => x.name) ∘ entry read = (·.name) :=
  funext (entry_name read)

theorem named_comp_entry (read : FileReader) (name : String) :
    (fun x : RegistryEntry σ PlanBuilder => x.name == name) ∘ entry read = (·.name == name) :=
  funext fun p => congrArg (· == name) (entry_name read p)

theorem registry_indexed (read : FileReader) (s : Settings) :
    (registry read s : Registry σ PlanBuilder).Indexed := Registry.ofEntries_indexed _

theorem registry_entries {s : Settings} (valid : s.Valid) (read : FileReader) :
    (registry read s : Registry σ PlanBuilder).entries = s.plugins.map (entry read) := by
  apply Registry.ofEntries_distinct
  rw [List.map_map, name_comp_entry]
  exact valid.distinct

def refusal? (x : RegistryEntry σ PlanBuilder) : Option RunError :=
  if x.status = .enabled then (Settings.refusal? x.manifest.selector).map .configuration else none

def refusalOf? (r : Registry σ PlanBuilder) (name : String) : Option RunError :=
  match r.get? name with
  | some x => refusal? x
  | none => some (.configuration (.unknownPlugin name))

theorem factory_fault (m : Manifest) :
    faultOf? ((factory : PluginFactory σ PlanBuilder) m) =
      (Settings.refusal? m.selector).map .configuration := by
  rw [factory, ← Settings.compile_fault]
  cases m.selector.compile <;> rfl

theorem instantiate_fault {x : RegistryEntry σ PlanBuilder} (equipped : x.factory = some factory) :
    faultOf? x.instantiate = refusal? x := by
  cases status : x.status with
  | enabled =>
    simp only [RegistryEntry.instantiate, status, equipped, refusal?, if_pos]
    rw [faultOf?_map, factory_fault]
  | disabled => simp [RegistryEntry.instantiate, status, refusal?, faultOf?]
  | notConfigured => simp [RegistryEntry.instantiate, status, refusal?, faultOf?]

theorem made_fault {r : Registry σ PlanBuilder}
    (equipped : ∀ x ∈ r.entries, x.factory = some factory) (name : String) :
    faultOf? (r.made name) = refusalOf? r name := by
  unfold refusalOf?
  cases found : r.get? name with
  | none => exact congrArg faultOf? (Registry.made_of_missing found)
  | some x =>
    rw [Registry.made_of_found found]
    exact instantiate_fault (equipped x (Registry.mem_of_get? found))

/-- With a fine version, an engine is refused for the first entry that is, or that is missing. -/
theorem engine_fault {s : Settings} {r : Registry σ PlanBuilder} {v : FormatVersion}
    (parsed : FormatVersion.parse s.engine.formatVersion = .ok v)
    (equipped : ∀ x ∈ r.entries, x.factory = some factory) (selected : List String) :
    faultOf? (engine s r selected) =
      if selected.isEmpty then r.entries.findSome? refusal?
      else selected.findSome? (refusalOf? r) := by
  have fitted (x : Except RunError (Compound σ PlanBuilder)) :
      faultOf? (x >>= outfit s) = faultOf? x := by
    cases x with
    | error err => rfl
    | ok c => exact faultOf?_eq_none.mpr (outfit_succeeds parsed c)
  have joined (x : Except RunError (List (Option (PluginTree σ PlanBuilder)))) :
      faultOf? (x >>= fun trees => pure (Compound.ofTrees (trees.filterMap id))) = faultOf? x := by
    cases x <;> rfl
  rw [engine_eq_outfit, fitted]
  split
  · rw [Registry.assembleAll, joined]
    exact faultOf?_mapM fun x member => instantiate_fault (equipped x member)
  · rw [Registry.assemble_fault]
    exact congrArg (selected.findSome? ·) (funext (made_fault equipped))

theorem declares_name {m : Manifest} {p : Plugin σ PlanBuilder} (h : Declares m p) :
    p.name = m.name := by
  obtain ⟨matcher, -, rfl⟩ := h
  rfl

theorem Plans.names {s : Settings} {ms : List Manifest}
    {e : Engine (Unit × TypePool.Cache) σ PlanBuilder} (h : Plans s ms e) :
    e.plugins.map (·.name) = ms.map (·.name) := by
  have named : Forall₂ (· = ·) (e.plugins.map (·.name)) (ms.map (·.name)) := by
    rw [List.forall₂_map_left_iff, List.forall₂_map_right_iff]
    exact (h.declared.imp fun _ _ => declares_name).flip
  exact List.forall₂_eq_eq_eq ▸ named

theorem registry_get? {s : Settings} (valid : s.Valid) (read : FileReader) (name : String) :
    (registry read s : Registry σ PlanBuilder).get? name =
      (s.plugins.find? (·.name == name)).map (entry read) := by
  rw [(registry_indexed read s).get?_eq_find?, registry_entries valid, List.find?_map,
    named_comp_entry]

end Planning

end

namespace Settings

def declares (s : Settings) (name : String) : Bool := s.plugins.any (·.name == name)

def enables (s : Settings) (name : String) : Bool :=
  s.plugins.any fun p => p.name == name && p.enabled

theorem find?_enabled {ps : List PluginDeclaration} (distinct : (ps.map (·.name)).Nodup)
    (name : String) :
    ((ps.find? (·.name == name)).filter (·.enabled)).map (·.name) =
      Option.guard (fun n => ps.any fun p => p.name == n && p.enabled) name := by
  induction ps with
  | nil => rfl
  | cons p ps ih =>
    obtain ⟨absent, others⟩ := List.nodup_cons.mp distinct
    rw [List.find?_cons]
    split
    · rename_i same
      obtain rfl := eq_of_beq same
      have alone : (ps.any fun q => q.name == p.name && q.enabled) = false := by
        rw [List.any_eq_false]
        intro q member both
        rw [Bool.and_eq_true, beq_iff_eq] at both
        exact absent (List.mem_map.mpr ⟨q, member, both.1⟩)
      cases on : p.enabled <;> simp [Option.guard, alone, on]
    · rename_i other
      rw [ih others, Option.guard, Option.guard, List.any_cons, other]
      rfl

end Settings

namespace Planning

section
variable [PatternEngine]

def inlineEntry (p : PluginDeclaration) : RegistryEntry σ PlanBuilder :=
  ⟨.ofDeclaration p, if p.enabled then .enabled else .disabled, some factory⟩

structure Assembles (read : FileReader) (s : Settings) (σ : Type) : Prop where
  registered : (registry read s).entries = s.plugins.map (inlineEntry (σ := σ))
  everyone : ∃ e : Engine (Unit × TypePool.Cache) σ PlanBuilder,
    engine s (registry read s) [] = .ok e ∧
      e.plugins.map (·.name) = (s.plugins.filter (·.enabled)).map (·.name)
  built_iff : ∀ names ≠ [],
    (∃ e : Engine (Unit × TypePool.Cache) σ PlanBuilder,
      engine s (registry read s) names = .ok e) ↔ ∀ name ∈ names, s.declares name
  selected : ∀ names ≠ [], ∀ e : Engine (Unit × TypePool.Cache) σ PlanBuilder,
    engine s (registry read s) names = .ok e → e.plugins.map (·.name) = names.filter s.enables
  undeclared : ∀ before name after, (∀ n ∈ before, s.declares n) → s.declares name = false →
    engine s (registry read s : Registry σ PlanBuilder) (before ++ name :: after) =
      .error (.configuration (.unknownPlugin name))

section
variable {read : FileReader} {s : Settings} (valid : s.Valid)
  (inline : ∀ p ∈ s.plugins, p.manifest = none)

theorem entry_inline {p : PluginDeclaration} (plain : p.manifest = none) :
    entry read p = inlineEntry (σ := σ) p := by
  rw [entry, Manifest.declared, plain]
  rfl

include valid inline

theorem registry_inline :
    (registry read s).entries = s.plugins.map (inlineEntry (σ := σ)) := by
  rw [registry_entries valid]
  exact List.map_congr_left fun p member => entry_inline (inline p member)

theorem inline_accepted {x : RegistryEntry σ PlanBuilder} (h : x ∈ (registry read s).entries) :
    refusal? x = none := by
  rw [registry_inline valid inline] at h
  obtain ⟨p, member, rfl⟩ := List.mem_map.mp h
  have selector : Settings.refusal? (inlineEntry (σ := σ) p).manifest.selector = none := by
    rw [Settings.refusal?]
    change (Settings.selectorFaults p.selector).findSome? _ = none
    rw [valid.selectors p member]
    rfl
  rw [refusal?, selector]
  exact ite_self none

theorem refusalOf?_inline (name : String) :
    refusalOf? (registry read s : Registry σ PlanBuilder) name =
      if s.declares name then none else some (.configuration (.unknownPlugin name)) := by
  have known : ((registry read s : Registry σ PlanBuilder).get? name).isSome = s.declares name := by
    rw [registry_get? valid, Option.isSome_map, List.isSome_find?]
    rfl
  rw [refusalOf?, ← known]
  cases found : (registry read s : Registry σ PlanBuilder).get? name with
  | none => rfl
  | some x => exact inline_accepted valid inline (Registry.mem_of_get? found)

theorem enabled_inline (name : String) :
    (((registry read s : Registry σ PlanBuilder).get? name).filter (·.status = .enabled)).map
      (·.name) = Option.guard s.enables name := by
  rw [registry_get? valid, ← show _ = Option.guard s.enables name from
    Settings.find?_enabled valid.distinct name]
  cases found : s.plugins.find? (·.name == name) with
  | none => rfl
  | some p =>
    rw [Option.map_some, entry_inline (inline p (List.mem_of_find?_eq_some found))]
    cases on : p.enabled <;> simp [inlineEntry, on, Option.filter, RegistryEntry.name,
      Manifest.ofDeclaration]

theorem chosen_names (selected : List String) :
    (((registry read s : Registry σ PlanBuilder).chosen selected).map (·.manifest)).map (·.name) =
      if selected.isEmpty then (s.plugins.filter (·.enabled)).map (·.name)
      else selected.filter s.enables := by
  rw [List.map_map, Registry.chosen]
  split
  · rw [registry_inline valid inline, List.filter_map, List.map_map]
    have enabled : (fun x : RegistryEntry σ PlanBuilder => decide (x.status = .enabled)) ∘
        inlineEntry = (·.enabled) := by
      funext p
      cases on : p.enabled <;> simp [inlineEntry, on]
    rw [enabled]
    rfl
  · rw [List.filter_filterMap, List.map_filterMap, ← List.filterMap_eq_filter]
    exact congrArg (selected.filterMap ·) (funext (enabled_inline valid inline))

end

/-- Valid settings without manifest files lead to an engine, unless a plugin is selected that they
do not declare. -/
theorem valid_settings_assemble {read : FileReader} {s : Settings} (accepted : s.violations = [])
    (inline : ∀ p ∈ s.plugins, p.manifest = none) (σ : Type) : Assembles read s σ := by
  have valid := Settings.violations_eq_nil_iff.mp accepted
  obtain ⟨v, parsed⟩ := valid.version
  let r : Registry σ PlanBuilder := registry read s
  have equipped : ∀ x ∈ r.entries, x.factory = some factory := fun _ => registered_factory
  have named {selected : List String} {e : Engine (Unit × TypePool.Cache) σ PlanBuilder}
      (built : engine s r selected = .ok e) := (engine_plans equipped built).names.trans
        (chosen_names valid inline selected)
  have fault {names : List String} (some_ : names ≠ []) :
      faultOf? (engine s r names) = names.findSome? fun name =>
        if s.declares name then none else some (.configuration (.unknownPlugin name)) := by
    rw [engine_fault parsed equipped, if_neg (by simpa using some_)]
    exact congrArg (names.findSome? ·) (funext (refusalOf?_inline valid inline))
  constructor
  case registered => exact registry_inline valid inline
  case everyone =>
    have quiet : faultOf? (engine s r []) = none := by
      rw [engine_fault parsed equipped]
      exact List.findSome?_eq_none_iff.mpr fun x => inline_accepted valid inline
    obtain ⟨e, built⟩ := faultOf?_eq_none.mp quiet
    exact ⟨e, built, named built⟩
  case built_iff =>
    intro names some_
    rw [← faultOf?_eq_none, fault some_, List.findSome?_eq_none_iff]
    simp
  case selected =>
    intro names some_ e built
    rw [named built, if_neg (by simpa using some_)]
  case undeclared =>
    intro before name after declared missing
    rw [← faultOf?_eq_some, fault (by simp), List.findSome?_append, List.findSome?_cons]
    have early : (before.findSome? fun name => if s.declares name then none
        else some (RunError.configuration (.unknownPlugin name))) = none := by
      simpa using declared
    simp [early, missing]

end

open scoped Pattern

theorem valid_settings_assemble_three :
    let s : Settings := { plugins := [{ name := "trace", selector := .allOf [.matching "^run"] },
      { name := "audit", enabled := false }, { name := "count" }] }
    s.violations = [] ∧ (∀ p ∈ s.plugins, p.manifest = none) ∧
      Assembles (fun _ => .error .notFound) s Unit := by
  intro s
  have accepted : s.violations = [] := by decide +kernel
  have inline : ∀ p ∈ s.plugins, p.manifest = none := by simp [s]
  exact ⟨accepted, inline, valid_settings_assemble accepted inline Unit⟩

end Planning
end ClassForge
