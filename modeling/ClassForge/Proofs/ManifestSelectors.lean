import ClassForge.Pattern.Engine
import ClassForge.Proofs.BuiltEngines
import ClassForge.Proofs.Utf8RoundTrip

/-!
Selectors that come from manifest files. Validation does not see them, and reading a manifest does
not check them: a plugin whose manifest has a pattern that cannot be read is registered as enabled,
and it is the engine that is refused, not the plugin.
-/
namespace ClassForge.Planning
open List (Forall₂)
variable {σ : Type}

def usable (read : FileReader) (p : PluginDeclaration) : Bool := (Manifest.declared read p).isOk

theorem load_encoded {read : FileReader} {path text : String}
    (h : read path = .ok (Text.Utf8.encode text)) :
    Manifest.load read path = (Manifest.parse text).mapError .configuration := by
  rw [Manifest.load_text h (Text.Utf8.decode?_encoded _), String.ofList_toList]

section
variable [PatternEngine]

def manifestRefusal? (read : FileReader) (p : PluginDeclaration) : Option ConfigFault :=
  match p.manifest, Manifest.declared read p with
  | some _, .ok m => Settings.refusal? m.selector
  | _, _ => none

structure Trusts (read : FileReader) (s : Settings) (σ : Type) : Prop where
  /-- The selectors of the enabled entries are fine as far as those of the manifest files are. -/
  accepted_iff : (∀ x ∈ (registry read s : Registry σ PlanBuilder).entries, x.status = .enabled →
      Settings.selectorFaults x.manifest.selector = []) ↔
    ∀ p ∈ s.plugins, p.enabled → p.manifest.isSome → ∀ m, Manifest.declared read p = .ok m →
      Settings.selectorFaults m.selector = []
  /-- The first pattern of an enabled plugin's manifest that cannot be read refuses the engine. -/
  refused : faultOf? (engine s (registry read s : Registry σ PlanBuilder) []) =
    ((s.plugins.filter (·.enabled)).findSome? (manifestRefusal? read)).map .configuration
  /-- A manifest that cannot be used takes nothing away but its own plugin. -/
  names : ∀ e : Engine (Unit × TypePool.Cache) σ PlanBuilder,
    engine s (registry read s) [] = .ok e → e.plugins.map (·.name) =
      (s.plugins.filter fun p => p.enabled && usable read p).map (·.name)

section
variable {read : FileReader} {s : Settings} {p : PluginDeclaration}

theorem entry_enabled : (entry read p : RegistryEntry σ PlanBuilder).status = .enabled ↔
    (p.enabled && usable read p) = true := by
  unfold entry usable
  cases Manifest.declared read p with
  | error err => simp [Except.isOk, Except.toBool]
  | ok m => cases p.enabled <;> simp [Except.isOk, Except.toBool]

theorem entry_of_usable {m : Manifest} (h : Manifest.declared read p = .ok m) :
    (entry read p : RegistryEntry σ PlanBuilder).manifest = m := by
  rw [entry, h]

theorem entry_refusal : refusal? (entry read p : RegistryEntry σ PlanBuilder) =
    if p.enabled then
      match Manifest.declared read p with
      | .ok m => (Settings.refusal? m.selector).map .configuration
      | .error _ => none
    else none := by
  unfold entry
  cases Manifest.declared read p with
  | error err => cases p.enabled <;> rfl
  | ok m => cases p.enabled <;> rfl

theorem declared_fine (fine : Settings.selectorFaults p.selector = []) {m : Manifest}
    (h : Manifest.declared read p = .ok m) :
    p.manifest.isSome ∨ Settings.selectorFaults m.selector = [] := by
  cases file : p.manifest with
  | some path => exact Or.inl rfl
  | none =>
    rw [Manifest.declared, file] at h
    obtain rfl := Except.ok.inj h
    exact Or.inr fine

theorem entry_accepted_iff (fine : Settings.selectorFaults p.selector = []) :
    ((entry read p : RegistryEntry σ PlanBuilder).status = .enabled →
      Settings.selectorFaults (entry read p : RegistryEntry σ PlanBuilder).manifest.selector = []) ↔
    (p.enabled → p.manifest.isSome → ∀ m, Manifest.declared read p = .ok m →
      Settings.selectorFaults m.selector = []) := by
  cases declared : Manifest.declared read p with
  | error err => simp [entry_enabled, usable, declared, Except.isOk, Except.toBool]
  | ok m =>
    rw [entry_enabled, usable, declared, entry_of_usable declared, Except.isOk, Except.toBool,
      Bool.and_true]
    constructor
    · intro accepted enabled _ m' same
      obtain rfl := Except.ok.inj same
      exact accepted enabled
    · intro accepted enabled
      exact (declared_fine fine declared).elim (fun file => accepted enabled file m rfl) id

theorem entry_refusal_file (fine : Settings.selectorFaults p.selector = []) :
    refusal? (entry read p : RegistryEntry σ PlanBuilder) =
      if p.enabled then (manifestRefusal? read p).map .configuration else none := by
  rw [entry_refusal, manifestRefusal?]
  cases declared : Manifest.declared read p with
  | error err => cases p.manifest <;> rfl
  | ok m =>
    cases file : p.manifest with
    | some path => rfl
    | none =>
      have accepted : Settings.selectorFaults m.selector = [] := by
        simpa [file] using declared_fine fine declared
      have quiet : Settings.refusal? m.selector = none := by
        rw [Settings.refusal?, accepted]
        rfl
      simp [quiet]

end

theorem findSome?_refusal {read : FileReader} {ps : List PluginDeclaration}
    (fine : ∀ p ∈ ps, Settings.selectorFaults p.selector = []) :
    (ps.map (entry read : _ → RegistryEntry σ PlanBuilder)).findSome? refusal? =
      ((ps.filter (·.enabled)).findSome? (manifestRefusal? read)).map .configuration := by
  induction ps with
  | nil => rfl
  | cons p ps ih =>
    obtain ⟨here, later⟩ := List.forall_mem_cons.mp fine
    rw [List.map_cons, List.findSome?_cons, entry_refusal_file here, ih later, List.filter_cons]
    cases p.enabled with
    | false => rfl
    | true =>
      rw [if_pos rfl, if_pos rfl, List.findSome?_cons]
      cases manifestRefusal? read p <;> rfl

/-- Manifest files are trusted with their selectors, which may cost all plugins the engine. -/
theorem manifest_selectors_trusted {s : Settings} (accepted : s.violations = [])
    (read : FileReader) (σ : Type) : Trusts read s σ := by
  have valid := Settings.violations_eq_nil_iff.mp accepted
  obtain ⟨v, parsed⟩ := valid.version
  have equipped : ∀ x ∈ (registry read s : Registry σ PlanBuilder).entries,
      x.factory = some factory := fun _ => registered_factory
  constructor
  case accepted_iff =>
    rw [registry_entries valid, List.forall_mem_map]
    exact forall₂_congr fun p member => entry_accepted_iff (valid.selectors p member)
  case refused =>
    rw [engine_fault parsed equipped, registry_entries valid, ← findSome?_refusal valid.selectors]
    rfl
  case names =>
    intro e built
    rw [(engine_plans equipped built).names, Registry.chosen, List.map_map]
    change ((registry read s).entries.filter _).map _ = _
    have enabled : (fun x : RegistryEntry σ PlanBuilder => decide (x.status = .enabled)) ∘
        entry read = fun p => p.enabled && usable read p := by
      funext p
      exact Bool.eq_iff_iff.mpr (decide_eq_true_iff.trans entry_enabled)
    rw [registry_entries valid, List.filter_map, List.map_map, enabled]
    exact List.map_congr_left fun p _ => entry_name read p

end

open scoped Pattern

theorem manifest_selectors_trusted_tracer :
    let s : Settings := { plugins := [{ name := "tracer", manifest := some "tracer.toml" }] }
    s.violations = [] ∧ Trusts (fun _ => .error .notFound) s Unit := by
  intro s
  have accepted : s.violations = [] := by decide +kernel
  exact ⟨accepted, manifest_selectors_trusted accepted _ Unit⟩

/-- A pattern that validation would refuse is enabled, and the counter is lost with the tracer. -/
theorem manifest_pattern_refuses_engine :
    let manifest :=
      "[plugin]\nname = \"tracer\"\nversion = \"1\"\nmatcher = \x7b name_matches = \"*\" \x7d"
    let read : FileReader := fun _ => .ok (Text.Utf8.encode manifest)
    let s : Settings :=
      { plugins := [{ name := "tracer", manifest := some "tracer.toml" }, { name := "counter" }] }
    let detail : Detail := .pattern "there is nothing to repeat"
    s.violations = [] ∧
      (∃ x ∈ (registry read s : Registry Unit PlanBuilder).entries, x.status = .enabled ∧
        Settings.selectorFaults x.manifest.selector = [([], .pattern "*" detail)]) ∧
      faultOf? (engine s (registry read s : Registry Unit PlanBuilder) []) =
        some (.configuration (.pattern "*" detail)) := by
  intro manifest read s detail
  have version : FormatVersion.parse s.engine.formatVersion = .ok ⟨61, 0⟩ := by decide +kernel
  have valid : s.Valid := {
    version := ⟨_, version⟩
    level := by decide
    starts := by simp [s]
    named := by decide
    distinct := by decide
    located := by simp [s]
    selectors := by simp [s, Settings.selectorFaults] }
  have computed : (Manifest.parse manifest).toOption.any (fun m => m.name == "tracer" &&
      match m.selector with
      | .matching pattern => pattern == "*"
      | _ => false) = true := by
    subst manifest
    decide +kernel
  obtain ⟨m, parsed, name, selector⟩ : ∃ m, Manifest.parse manifest = .ok m ∧
      m.name = "tracer" ∧ m.selector = .matching "*" := by
    cases parsed : Manifest.parse manifest with
    | error fault => simp [parsed, Except.toOption] at computed
    | ok m =>
      simp only [parsed, Except.toOption, Option.any_some, Bool.and_eq_true, beq_iff_eq] at computed
      obtain ⟨name, pattern⟩ := computed
      refine ⟨m, rfl, name, ?_⟩
      split at pattern
      · rename_i selector
        rw [selector, eq_of_beq pattern]
      · cases pattern
  have unreadable : NamePattern.ofText "*" = .error detail := rfl
  have faults : Settings.selectorFaults m.selector = [([], .pattern "*" detail)] := by
    rw [selector, Settings.selectorFaults, unreadable]
  have declared : Manifest.declared read { name := "tracer", manifest := some "tracer.toml" } =
      .ok m := by
    have loaded : Manifest.load read "tracer.toml" = (Manifest.parse manifest).mapError _ :=
      load_encoded rfl
    simp only [Manifest.declared, loaded, parsed, Except.mapError, name, ↓reduceIte]
  have equipped : ∀ x ∈ (registry read s : Registry Unit PlanBuilder).entries,
      x.factory = some factory := fun _ => registered_factory
  have entries := registry_entries (σ := Unit) valid read
  refine ⟨Settings.violations_eq_nil_iff.mpr valid,
    ⟨entry read { name := "tracer", manifest := some "tracer.toml" }, ?_, ?_, ?_⟩, ?_⟩
  · rw [entries]
    exact List.mem_cons_self
  · rw [entry_enabled, usable, declared]
    rfl
  · rw [entry_of_usable declared, faults]
  · rw [engine_fault version equipped, entries]
    change ([_, _].map (entry read)).findSome? refusal? = _
    rw [List.map_cons, List.findSome?_cons, entry_refusal, declared]
    simp [Settings.refusal?, faults, Settings.SelectorFault.refusal?]

end ClassForge.Planning
