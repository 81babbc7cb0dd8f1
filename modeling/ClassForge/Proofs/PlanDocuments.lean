import ClassForge.Proofs.JsonRoundTrip
import ClassForge.Proofs.PlannedTypes
import ClassForge.Proofs.Utf8RoundTrip

/-!
Plans as documents. Whatever a builder was told, what it makes is the text of a document that says
the same: it is read as an object with the parts of the plan, and different plans are different
texts.
-/
namespace ClassForge

inductive PlanStep where
  | contribute (plugin description : String)
  | registerLive (plugin : String)
  deriving DecidableEq, Repr

namespace PlanStep

def perform (b : PlanBuilder) : PlanStep → PlanBuilder
  | .contribute plugin description => b.contribute plugin description
  | .registerLive plugin => b.registerLive plugin

def contribution? : PlanStep → Option Contribution
  | .contribute plugin description => some ⟨plugin, description⟩
  | .registerLive _ => none

def live? : PlanStep → Option String
  | .contribute _ _ => none
  | .registerLive plugin => some plugin

end PlanStep

namespace PlanBuilder

def told (t : TypeName) (v : FormatVersion) (kind : EntryPointKind) (steps : List PlanStep) :
    PlanBuilder := steps.foldl PlanStep.perform ⟨t, v, kind, [], []⟩

theorem foldl_perform (steps : List PlanStep) (b : PlanBuilder) :
    steps.foldl PlanStep.perform b =
      { b with
        contributions := b.contributions ++ steps.filterMap PlanStep.contribution?
        live := b.live ++ steps.filterMap PlanStep.live? } := by
  induction steps generalizing b with
  | nil => simp
  | cons step steps ih =>
    rw [List.foldl_cons, ih]
    cases step with
    | contribute plugin description =>
      have none : PlanStep.live? (.contribute plugin description) = none := rfl
      have some : PlanStep.contribution? (.contribute plugin description) =
        some ⟨plugin, description⟩ := rfl
      simp [PlanStep.perform, contribute, none, some]
    | registerLive plugin =>
      have none : PlanStep.contribution? (.registerLive plugin) = none := rfl
      have some : PlanStep.live? (.registerLive plugin) = some plugin := rfl
      simp [PlanStep.perform, registerLive, none, some]

theorem told_plan (t : TypeName) (v : FormatVersion) (kind : EntryPointKind)
    (steps : List PlanStep) :
    (told t v kind steps).plan = ⟨t.name, v.render, kind,
      steps.filterMap PlanStep.contribution?, steps.filterMap PlanStep.live?⟩ := by
  simp [told, foldl_perform, plan]

end PlanBuilder

theorem EntryPointKind.keyword_injective {kind kind' : EntryPointKind}
    (same : kind.keyword = kind'.keyword) : kind = kind' := by
  cases kind <;> cases kind' <;> simp_all [keyword]

namespace Plan

theorem toJson_injective {p q : Plan} (same : p.toJson = q.toJson) : p = q := by
  obtain ⟨target, version, kind, contributions, live⟩ := p
  obtain ⟨target', version', kind', contributions', live'⟩ := q
  simp only [toJson, Json.Value.object.injEq, List.cons.injEq, Prod.mk.injEq,
    Json.Value.text.injEq, Json.Value.list.injEq, true_and, and_true] at same
  obtain ⟨sameTarget, sameVersion, sameKind, sameContributions, sameLive⟩ := same
  have apart : ∀ c c' : Contribution,
      Json.Value.object [("plugin", .text c.plugin), ("description", .text c.description)] =
        .object [("plugin", .text c'.plugin), ("description", .text c'.description)] → c = c' := by
    intro c c' alike
    cases c
    cases c'
    simpa using alike
  rw [sameTarget, sameVersion, EntryPointKind.keyword_injective sameKind,
    (List.map_inj_right apart).mp sameContributions,
    (List.map_inj_right fun _ _ => Json.Value.text.inj).mp sameLive]

end Plan

namespace PlanBuilder
open Text

theorem artifact_read (b : PlanBuilder) :
    ∃ text, Utf8.decode? b.artifact.bytes = some text ∧
      Json.parse (String.ofList text) = some b.plan.toJson := by
  refine ⟨(Json.render b.plan.toJson).toList, ?_, ?_⟩
  · rw [artifact_bytes, Utf8.encode, Utf8.decode?_encoded]
  · rw [String.ofList_toList, Json.parse_render]

theorem plan_of_bytes {b b' : PlanBuilder} (same : b.artifact.bytes = b'.artifact.bytes) :
    b.plan = b'.plan := by
  obtain ⟨text, decoded, read⟩ := b.artifact_read
  obtain ⟨text', decoded', read'⟩ := b'.artifact_read
  rw [same, decoded'] at decoded
  rw [← Option.some.inj decoded, read'] at read
  exact (Plan.toJson_injective (Option.some.inj read)).symm

/-- Whatever a new builder is told, making succeeds, and what is made is read as an object with the
parts of the plan, in which everything told stands in order. Other plans give other bytes. -/
theorem plans_survive (t : TypeName) (v : FormatVersion) (kind : EntryPointKind)
    (steps : List PlanStep) :
    let p := (told t v kind steps).plan
    p = ⟨t.name, v.render, kind, steps.filterMap PlanStep.contribution?,
      steps.filterMap PlanStep.live?⟩ ∧
    ∃ a text, Builder.make (told t v kind steps) = .ok a ∧ Utf8.decode? a.bytes = some text ∧
      Json.parse (String.ofList text) = some (.object [
        ("target", .text p.target),
        ("class_file_version", .text p.formatVersion),
        ("entry_point", .text p.entryPoint.keyword),
        ("contributions", .list (p.contributions.map fun c =>
          .object [("plugin", .text c.plugin), ("description", .text c.description)])),
        ("live_initializers", .list (p.liveInitializers.map .text))]) ∧
      ∀ t' v' kind' steps', (told t' v' kind' steps').plan ≠ p →
        ∃ a', Builder.make (told t' v' kind' steps') = .ok a' ∧ a'.bytes ≠ a.bytes := by
  intro p
  obtain ⟨text, decoded, read⟩ := (told t v kind steps).artifact_read
  refine ⟨told_plan t v kind steps, _, text, rfl, decoded, read, ?_⟩
  intro t' v' kind' steps' different
  exact ⟨_, rfl, fun same => different (plan_of_bytes same)⟩

end PlanBuilder
end ClassForge
