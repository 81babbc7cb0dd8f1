import ClassForge.Proofs.CarriedInitializers
import ClassForge.Proofs.DeclaredPlugins
import ClassForge.Proofs.ElementExit
import ClassForge.Proofs.RememberedTypes

/-!
Planning of one entry. Declared plugins never fail, so that the plan of a type is a fold over the
manifests that are for it; which type an entry holds is the same whether it is remembered or not.
-/
namespace ClassForge
open List (Forall₂)
variable {σ : Type}

section
variable {t : TypeName} {l : Locator} [PatternEngine]

theorem declared_turn {m : Manifest} {p : Plugin σ PlanBuilder} (h : Declares m p) (b : PlanBuilder)
    (s : σ) :
    let u : Turn σ PlanBuilder := ⟨p, b, s⟩
    u.failure? t l = none ∧ u.selected t = m.isFor t ∧ u.worldAfter t l = s ∧
      u.builderAfter t l = if m.isFor t then Planning.contribute m b else b := by
  obtain ⟨matcher, compiled, rfl⟩ := h
  cases accepted : matcher.accepts t <;>
    simp [Turn.failure?, Turn.selected, Turn.worldAfter, Turn.builderAfter, Turn.answer,
      Turn.response, Plugin.ofMatcher, Manifest.isFor, compiled, accepted]

/-- The turns of declared plugins come to the contributions of the manifests for the type. -/
theorem declared_turns {ms : List Manifest} {ps : List (Plugin σ PlanBuilder)}
    (h : Forall₂ Declares ms ps) (b : PlanBuilder) (s : σ) :
    (∀ u ∈ turns t l ps b s, u.failure? t l = none) ∧
      ((∃ u ∈ turns t l ps b s, u.selected t = true) ↔ ∃ m ∈ ms, m.isFor t = true) ∧
      afterTurns t l ps b s =
        ((ms.filter (·.isFor t)).foldl (fun b m => Planning.contribute m b) b, s) := by
  induction h generalizing b with
  | nil => exact ⟨by simp [turns], by simp [turns], rfl⟩
  | @cons m p ms ps first rest ih =>
    obtain ⟨fine, selected, world, builder⟩ := declared_turn (t := t) (l := l) first b s
    obtain ⟨fineLater, selectedLater, later⟩ := ih (Turn.builderAfter t l ⟨p, b, s⟩)
    simp only [turns, afterTurns, world, List.exists_mem_cons_iff, selected, selectedLater, later,
      List.filter_cons]
    refine ⟨List.forall_mem_cons.mpr ⟨fine, fineLater⟩, trivial, ?_⟩
    rw [builder]
    cases m.isFor t <;> rfl

end

namespace Planning

theorem foldl_contribute (ms : List Manifest) (b : PlanBuilder) :
    ms.foldl (fun b m => contribute m b) b =
      { b with
        contributions := b.contributions ++ ms.map fun m => ⟨m.name, m.contribution⟩
        live := b.live ++ (ms.filter (·.live)).map (·.name) } := by
  induction ms generalizing b with
  | nil => simp
  | cons m ms ih =>
    rw [List.foldl_cons, ih]
    cases live : m.live <;>
      simp [contribute, PlanBuilder.contribute, PlanBuilder.registerLive, live]

section
variable [PatternEngine]

/-- The plan of a type: what the manifests for it contribute, and which of them are live. -/
def planFor (s : Settings) (v : FormatVersion) (ms : List Manifest) (t : TypeName) : Plan where
  target := t.name
  formatVersion := v.render
  entryPoint := s.engine.entryPoint
  contributions := (ms.filter (·.isFor t)).map fun m => ⟨m.name, m.contribution⟩
  liveInitializers := ((ms.filter (·.isFor t)).filter (·.live)).map (·.name)

def builderFor (s : Settings) (v : FormatVersion) (ms : List Manifest) (t : TypeName) :
    PlanBuilder :=
  (ms.filter (·.isFor t)).foldl (fun b m => contribute m b) ⟨t, v, s.engine.entryPoint, [], []⟩

theorem builderFor_live {s : Settings} {v : FormatVersion} {ms : List Manifest} {t : TypeName} :
    (builderFor s v ms t).live = [] ↔ ¬∃ m ∈ ms, m.live = true ∧ m.isFor t = true := by
  simp only [builderFor, foldl_contribute, List.nil_append, List.map_eq_nil_iff,
    List.filter_eq_nil_iff, List.mem_filter]
  constructor
  · rintro none ⟨m, member, live, isFor⟩
    exact none m ⟨member, isFor⟩ live
  · rintro none m ⟨member, isFor⟩ live
    exact none ⟨m, member, live, isFor⟩

theorem builderFor_target (s : Settings) (v : FormatVersion) (ms : List Manifest) (t : TypeName) :
    (builderFor s v ms t).target = t := by
  simp [builderFor, foldl_contribute]

theorem builderFor_plan (s : Settings) (v : FormatVersion) (ms : List Manifest) (t : TypeName) :
    (builderFor s v ms t).plan = planFor s v ms t := by
  simp [builderFor, foldl_contribute, PlanBuilder.plan, planFor]

end
end Planning

namespace PlanBuilder

theorem artifact_eq (b : PlanBuilder) :
    b.artifact = ⟨b.target, Text.Utf8.encode (Json.render b.plan.toJson),
      (b.target, .dormant) :: Artifact.numbered (Artifact.auxiliary b.target "$SmeltInitializer") 0
        (b.live.map ("initializer registered by " ++ ·))⟩ :=
  Artifact.ofBytes_withLiveInitializers _ _ _ _

theorem artifact_type (b : PlanBuilder) : b.artifact.type = b.target := by
  rw [artifact_eq]

theorem artifact_bytes (b : PlanBuilder) :
    b.artifact.bytes = Text.Utf8.encode (Json.render b.plan.toJson) := by
  rw [artifact_eq]

theorem artifact_live (b : PlanBuilder) :
    b.artifact.liveInitializer?.isSome = !b.live.isEmpty := by
  have carried : b.artifact.liveInitializer? = _ :=
    (Artifact.ofBytes_carries b.target _ _ _).firstAlive
  rw [carried]
  cases b.live <;> rfl

end PlanBuilder

theorem check_permitted {policy : InitializerPolicy} {a : Artifact}
    (h : policy = .permit ∨ a.liveInitializer?.isSome = false) : policy.check a = .ok () := by
  unfold InitializerPolicy.check
  split
  · rename_i t init found
    simp [found] at h
  · rfl

theorem check_refused {a : Artifact} (h : a.liveInitializer?.isSome = true) :
    ∃ t d, InitializerPolicy.reject.check a = .error (.liveInitializer t d) := by
  obtain ⟨⟨t, init⟩, found⟩ := Option.isSome_iff_exists.mp h
  exact ⟨t.name, init.description, by simp [InitializerPolicy.check, found]⟩

namespace Planning
variable [PatternEngine]

/-- What planning an entry comes to, unless the run ends with it. -/
def verdict (s : Settings) (ms : List Manifest) (name : String) : Outcome :=
  match TypePool.classFile s.source.skipPrefixes name with
  | none => .unresolved
  | some t => if ms.any (·.isFor t) then .success else .ignored

def fate (s : Settings) (v : FormatVersion) (ms : List Manifest) (name : String) : Disposition :=
  match TypePool.classFile s.source.skipPrefixes name with
  | none => .retained
  | some t => if ms.any (·.isFor t) then .replaced (builderFor s v ms t).artifact else .retained

/-- A live plugin is for the type of the entry, and the settings do not allow it. -/
def Blocked (s : Settings) (ms : List Manifest) (name : String) : Prop :=
  s.engine.failOnLiveInitializer = true ∧
    ∃ t, TypePool.classFile s.source.skipPrefixes name = some t ∧
      ∃ m ∈ ms, m.live = true ∧ m.isFor t = true

inductive Comes (s : Settings) (v : FormatVersion) (ms : List Manifest) (x : Source.Place)
    (ledger : Ledger) : Except RunError Outcome → Ledger → Prop where
  | blocked (t d : String) (left : Ledger) (live : Blocked s ms x.name) :
      Comes s v ms x ledger (.error (.liveInitializer t d)) left
  | settled {left : Ledger} (free : ¬Blocked s ms x.name)
      (stored : left = ledger.set x.index (fate s v ms x.name)) :
      Comes s v ms x ledger (.ok (verdict s ms x.name)) left

theorem blocked_iff {s : Settings} {ms : List Manifest} {name : String} {t : TypeName}
    (v : FormatVersion) (resolved : TypePool.classFile s.source.skipPrefixes name = some t) :
    Blocked s ms name ↔
      s.engine.failOnLiveInitializer = true ∧
        (builderFor s v ms t).artifact.liveInitializer?.isSome = true := by
  rw [Blocked, resolved, PlanBuilder.artifact_live, Bool.not_eq_true', List.isEmpty_eq_false_iff,
    Ne, builderFor_live, not_not]
  simp

section
variable {s : Settings} {ms : List Manifest}
  {e : Engine (Unit × TypePool.Cache) σ PlanBuilder} (plans : Plans s ms e)
  {x : Source.Place} {t : TypeName} (ledger : Ledger)
  (resolved : TypePool.classFile s.source.skipPrefixes x.name = some t)
include plans resolved

theorem commit_comes (chosen : ms.any (·.isFor t) = true) :
    let ended := e.commit Source.inArchive x t (builderFor s e.version ms t) ledger
    Comes s e.version ms x ledger ended.1 ended.2.2 := by
  have made : Builder.make (builderFor s e.version ms t) =
    .ok (builderFor s e.version ms t).artifact := rfl
  -- The policy looks at the artifact only, and so at the live plugins that contributed to it.
  by_cases blocked : Blocked s ms x.name
  · obtain ⟨strict, live⟩ := (blocked_iff e.version resolved).mp blocked
    have guarded : e.initializerPolicy = .reject := by rw [plans.guarded, if_pos strict]
    obtain ⟨type, d, refused⟩ := check_refused live
    rw [← guarded] at refused
    rw [Engine.commit_of_rejected e _ x t made refused]
    exact .blocked type d ledger blocked
  · have passed : e.initializerPolicy.check (builderFor s e.version ms t).artifact = .ok () := by
      refine check_permitted ?_
      rw [blocked_iff e.version resolved, not_and, Bool.not_eq_true] at blocked
      cases strict : s.engine.failOnLiveInitializer with
      | true => exact Or.inr (blocked strict)
      | false => exact Or.inl (by simp [plans.guarded, strict])
    have success : verdict s ms x.name = .success := by simp [verdict, resolved, chosen]
    have replaced : fate s e.version ms x.name =
        .replaced (builderFor s e.version ms t).artifact := by simp [fate, resolved, chosen]
    rw [Engine.commit_of_replaced e _ x t made passed rfl, ← success, ← replaced]
    exact .settled blocked rfl

theorem conclude_comes {g : Progress PlanBuilder} (fine : g.failed = false)
    (changed : g.transformed = ms.any (·.isFor t))
    (folded : g.builder = builderFor s e.version ms t) :
    let ended := e.conclude Source.inArchive x t g ledger
    Comes s e.version ms x ledger ended.1 ended.2.2 := by
  cases chosen : ms.any (·.isFor t) with
  | true =>
    rw [e.conclude_of_transformed _ x t g ledger fine (changed.trans chosen), folded]
    exact commit_comes plans ledger resolved chosen
  | false =>
    have free : ¬Blocked s ms x.name := by
      rintro ⟨_, t', resolved', m, member, _, isFor⟩
      obtain rfl : t = t' := Option.some.inj (resolved.symm.trans resolved')
      exact List.any_eq_false.mp chosen m member isFor
    have ignored : verdict s ms x.name = .ignored := by simp [verdict, resolved, chosen]
    have retained : fate s e.version ms x.name = .retained := by simp [fate, resolved, chosen]
    rw [e.conclude_of_untransformed _ x t g ledger fine (changed.trans chosen), ← ignored]
    exact .settled free (by rw [retained]; rfl)

end

/-- Every entry is dealt with as its name says. What the pool remembers makes no difference. -/
theorem process_comes {s : Settings} {ms : List Manifest}
    {e : Engine (Unit × TypePool.Cache) σ PlanBuilder} (plans : Plans s ms e) (x : Source.Place)
    {cache : TypePool.Cache}
    (remembers : TypePool.Remembers (TypePool.classFile s.source.skipPrefixes) cache) (world : σ)
    (ledger : Ledger) :
    let ran := e.process Source.inArchive x ((), cache) world ledger
    Comes s e.version ms x ledger ran.result ran.store ∧
      TypePool.Remembers (TypePool.classFile s.source.skipPrefixes) ran.pool.2 ∧
      pluginFailures ran.events = [] := by
  obtain ⟨consulted, _, cache', found, remembers'⟩ :=
    TypePool.cached_describe (TypePool.ofFunction_answersBy _) remembers () x.name
  rw [← TypePool.classFiles, ← plans.pooled] at found
  cases resolved : TypePool.classFile s.source.skipPrefixes x.name with
  | none =>
    rw [resolved] at found
    have free : ¬Blocked s ms x.name := by
      rintro ⟨_, t, resolved', _⟩
      simp [resolved] at resolved'
    have unresolved : verdict s ms x.name = .unresolved := by simp [verdict, resolved]
    have retained : fate s e.version ms x.name = .retained := by simp [fate, resolved]
    rw [Engine.process_of_unresolved found, ← unresolved]
    exact ⟨.settled free (by rw [retained]; rfl), remembers',
      by simp [lookupEvents_failures, Event.pluginFailure?]⟩
  | some t =>
    rw [resolved] at found
    let b : PlanBuilder := ⟨t, e.version, s.engine.entryPoint, [], []⟩
    have seeded : e.entryPoint t e.version e.locator world = (.ok b, world) := by
      rw [plans.seeded]
      rfl
    obtain ⟨fine, chosen, after⟩ := declared_turns (t := t) (l := e.locator) plans.declared b world
    have looped := applyPlugins_of_fine t e.locator 0 e.failurePolicy e.plugins ⟨b, false, false⟩
      world fine
    rw [Engine.process_of_folded found seeded looped]
    refine ⟨conclude_comes plans ledger resolved (progress_failed_eq_false fine) ?_ ?_,
      remembers', ?_⟩
    · rw [Bool.eq_iff_iff, progress_transformed_iff fine, chosen, List.any_eq_true]
    · simp only [progressAfter, after]
      rfl
    · simp only [List.filterMap_append, openingEvents_failures, failures_of_turns,
        Engine.conclude_failures, List.filterMap_eq_nil_iff.mpr fine]
      rfl

end Planning
end ClassForge
