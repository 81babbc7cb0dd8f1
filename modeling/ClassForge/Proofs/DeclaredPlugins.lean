import ClassForge.Planning
import ClassForge.Proofs.AssembledEntries
import ClassForge.Proofs.PluginForests

/-!
From declarations to the plugins of an engine. Whatever is registered for planning makes plugins in
the same way, so that the plugins of a built engine are those of the chosen manifests, in order.
-/
namespace ClassForge
open List (Forall₂)
variable {σ B : Type}

namespace Registry

/-- The enabled entries: all, or the selected ones in the order of the selection. -/
def chosen (r : Registry σ B) (selected : List String) : List (RegistryEntry σ B) :=
  (if selected.isEmpty then r.entries else selected.filterMap r.get?).filter
    fun x => x.status = .enabled

theorem mem_of_chosen {r : Registry σ B} {selected : List String} {x : RegistryEntry σ B}
    (member : x ∈ r.chosen selected) : x ∈ r.entries := by
  have among := List.mem_of_mem_filter member
  split at among
  · exact among
  · obtain ⟨name, -, found⟩ := List.mem_filterMap.mp among
    exact mem_of_get? found

end Registry

def Manifest.isFor [PatternEngine] (m : Manifest) (t : TypeName) : Bool :=
  match m.selector.compile with
  | .ok matcher => matcher.accepts t
  | .error _ => false

theorem Manifest.load_text {read : FileReader} {path : String} {bytes : Bytes} {cs : List Char}
    (there : read path = .ok bytes) (text : Text.Utf8.decode? bytes = some cs) :
    Manifest.load read path = (Manifest.parse (String.ofList cs)).mapError .configuration := by
  simp only [Manifest.load, there, text]

namespace Planning

def outfit (s : Settings) (c : Compound σ PlanBuilder) :
    Except RunError (Engine (Unit × TypePool.Cache) σ PlanBuilder) := do
  let draft : EngineDraft (Unit × TypePool.Cache) σ PlanBuilder := {
    entryPoint := some (planEntryPoint s.engine.entryPoint)
    pool := some (.cached (.classFiles s.source.skipPrefixes))
    plugins := some (c.plugins.map .single) }
  let draft ← (draft.configure s.engine).mapError .configuration
  draft.build.mapError .configuration

theorem engine_eq_outfit (s : Settings) (r : Registry σ PlanBuilder) (selected : List String) :
    engine s r selected =
      (if selected.isEmpty then r.assembleAll else r.assemble selected) >>= outfit s := by
  unfold engine
  split <;> rfl

theorem outfit_succeeds {s : Settings} {v : FormatVersion}
    (parsed : FormatVersion.parse s.engine.formatVersion = .ok v) (c : Compound σ PlanBuilder) :
    ∃ e, outfit s c = .ok e := by
  unfold outfit EngineDraft.configure
  rw [parsed]
  exact ⟨_, rfl⟩

end Planning

variable [PatternEngine]

/-- The plugin puts down what its manifest contributes, and is for the types of its selector. -/
def Declares (m : Manifest) (p : Plugin σ PlanBuilder) : Prop :=
  ∃ matcher, m.selector.compile = .ok matcher ∧
    p = .ofMatcher m.name matcher fun b _ => .ok (Planning.contribute m b)

theorem flattened_declare {xs : List (RegistryEntry σ PlanBuilder)}
    {trees : List (PluginTree σ PlanBuilder)}
    (equipped : ∀ x ∈ xs, x.factory = some Planning.factory)
    (h : Forall₂ RegistryEntry.Creates xs trees) :
    Forall₂ Declares (xs.map (·.manifest)) (PluginTree.flattenAll trees) := by
  induction h with
  | nil => exact .nil
  | @cons x tree xs trees first rest ih =>
    obtain ⟨here, later⟩ := List.forall_mem_cons.mp equipped
    obtain ⟨make, given, created⟩ := first
    obtain rfl := Option.some.inj (here.symm.trans given)
    unfold Planning.factory at created
    split at created
    · cases created
    · rename_i matcher compiled
      obtain rfl := Except.ok.inj created
      exact .cons ⟨matcher, compiled, rfl⟩ (ih later)

namespace Planning

theorem entry_factory (read : FileReader) (p : PluginDeclaration) :
    (entry read p : RegistryEntry σ PlanBuilder).factory = some factory := by
  unfold entry
  split <;> rfl

theorem registered_factory {read : FileReader} {s : Settings} {x : RegistryEntry σ PlanBuilder}
    (h : x ∈ (registry read s).entries) : x.factory = some factory := by
  obtain ⟨p, _, rfl⟩ := List.mem_map.mp (Registry.mem_ofEntries h)
  exact entry_factory read p

structure Plans (s : Settings) (ms : List Manifest)
    (e : Engine (Unit × TypePool.Cache) σ PlanBuilder) : Prop where
  declared : Forall₂ Declares ms e.plugins
  seeded : e.entryPoint = planEntryPoint s.engine.entryPoint
  pooled : e.pool = .cached (.classFiles s.source.skipPrefixes)
  guarded : e.initializerPolicy = if s.engine.failOnLiveInitializer then .reject else .permit

theorem outfit_plans {s : Settings} {c : Compound σ PlanBuilder} {ms : List Manifest}
    {e : Engine (Unit × TypePool.Cache) σ PlanBuilder} (declared : Forall₂ Declares ms c.plugins)
    (h : outfit s c = .ok e) : Plans s ms e := by
  obtain ⟨draft, configured, built⟩ := bind_succeeds h
  rw [← PluginTree.flattenAll_singles c.plugins] at declared
  cases parsed : FormatVersion.parse s.engine.formatVersion with
  | error fault =>
    simp [EngineDraft.configure, parsed, Except.mapError, bind, Except.bind] at configured
  | ok v =>
    simp only [EngineDraft.configure, parsed, Except.mapError, bind, Except.bind, pure,
      Except.pure] at configured
    obtain rfl := Except.ok.inj configured
    obtain rfl := Except.ok.inj built
    exact ⟨declared, rfl, rfl, rfl⟩

theorem engine_plans {s : Settings} {r : Registry σ PlanBuilder} {selected : List String}
    {e : Engine (Unit × TypePool.Cache) σ PlanBuilder}
    (equipped : ∀ x ∈ r.entries, x.factory = some factory)
    (built : engine s r selected = .ok e) :
    Plans s ((r.chosen selected).map (·.manifest)) e := by
  rw [engine_eq_outfit] at built
  obtain ⟨c, assembled, fitted⟩ := bind_succeeds built
  refine outfit_plans ?_ fitted
  have chosen : ∃ trees, Forall₂ RegistryEntry.Creates (r.chosen selected) trees ∧
      c = .ofTrees trees := by
    unfold Registry.chosen
    split at assembled
    · rename_i all
      rw [if_pos all]
      exact Registry.assembleAll_creates assembled
    · rename_i named
      rw [if_neg named]
      exact Registry.assemble_creates assembled
  obtain ⟨trees, created, rfl⟩ := chosen
  exact flattened_declare (fun x member => equipped x (Registry.mem_of_chosen member)) created

end Planning
end ClassForge
