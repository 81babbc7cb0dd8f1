import ClassForge.Proofs.PluginTurns

/-!
How the engine comes to an end with one element. Either the element is settled: it is disposed of
once and its outcome is told once, as the last thing that happens. Or it is given up with an error,
and then nothing but open events has happened to it.
-/
namespace ClassForge
variable {ρ σ B S E : Type}

/-- The last events for a settled element, by its outcome and the artifact in its place. Listeners
hear of an element before it is kept, but of a new artifact only once it is in place. -/
inductive Settles (name : String) : Outcome → Option Artifact → List (Event B) → Prop where
  | unresolved : Settles name .unresolved none [.notified (.unresolved name), .retained name]
  | ignored (t : TypeName) : Settles name .ignored none [.notified (.ignored t), .retained name]
  | failed (t : TypeName) : Settles name .failed none [.notified (.failure t), .retained name]
  | success (t : TypeName) (a : Artifact) :
      Settles name .success (some a) [.replaced name a true, .notified (.success t)]

inductive Disposed (c : Container S E) (x : E) (store : S) : Option Artifact → S → Prop where
  | retained : Disposed c x store none (c.retain x store)
  | replaced {a : Artifact} {after : S} (done : c.replace x a store = (.ok (), after)) :
      Disposed c x store (some a) after

/-- The store once an element is given up. At most a replacement was tried, in vain. -/
inductive GivenUp (c : Container S E) (x : E) (store : S) : S → Prop where
  | untouched : GivenUp c x store store
  | refused {a : Artifact} {err : RunError} {after : S}
      (tried : c.replace x a store = (.error err, after)) : GivenUp c x store after

inductive Exit (c : Container S E) (x : E) (store : S) :
    Except RunError Outcome → List (Event B) → S → Prop where
  | settled {before last : List (Event B)} {o : Outcome} {a? : Option Artifact} {after : S}
      (opened : AllOpen before) (settles : Settles (c.name x) o a? last)
      (disposed : Disposed c x store a? after) : Exit c x store (.ok o) (before ++ last) after
  | givenUp {events : List (Event B)} {err : RunError} {after : S}
      (opened : AllOpen events) (left : GivenUp c x store after) :
      Exit c x store (.error err) events after

theorem exit_after_open {c : Container S E} {x : E} {store after : S}
    {result : Except RunError Outcome} {before events : List (Event B)} (opened : AllOpen before)
    (h : Exit c x store result events after) : Exit c x store result (before ++ events) after := by
  cases h with
  | settled inner settles disposed =>
    rw [← List.append_assoc]
    exact .settled (opened.append inner) settles disposed
  | givenUp inner left => exact .givenUp (opened.append inner) left

theorem settled_disposals {name : String} {o : Outcome} {a? : Option Artifact}
    {before last : List (Event B)} (opened : AllOpen before) (h : Settles name o a? last) :
    disposals (before ++ last) = [(name, a?)] := by
  simp only [List.filterMap_append, opened.disposals_eq]
  cases h <;> rfl

theorem settled_outcomes {name : String} {o : Outcome} {a? : Option Artifact}
    {before last : List (Event B)} (opened : AllOpen before) (h : Settles name o a? last) :
    outcomes (before ++ last) = [o] := by
  simp only [List.filterMap_append, opened.outcomes_eq]
  cases h <;> rfl

theorem settled_requests {name : String} {o : Outcome} {a? : Option Artifact}
    {before last : List (Event B)} (opened : AllOpen before) (h : Settles name o a? last) :
    requests (before ++ last) = 0 := by
  simp only [List.countP_append, opened.requests_eq]
  cases h <;> rfl

theorem settled_closings {name : String} {o : Outcome} {a? : Option Artifact}
    {before last : List (Event B)} (opened : AllOpen before) (h : Settles name o a? last) :
    closings (before ++ last) = 0 := by
  simp only [List.countP_append, opened.closings_eq]
  cases h <;> rfl

/-- The pool's look-up, where it does not remember the answer. -/
def lookupEvents (consulted : Bool) (name : String) : List (Event B) :=
  if consulted then [.described name] else []

def openingEvents (consulted : Bool) (name : String) (t : TypeName) (v : FormatVersion) :
    List (Event B) :=
  lookupEvents consulted name ++ [.seeded t v]

section
variable (consulted : Bool) (name : String) (t : TypeName) (v : FormatVersion)

theorem lookupEvents_open : AllOpen (lookupEvents consulted name : List (Event B)) := by
  cases consulted with
  | true => exact .cons rfl .nil
  | false => exact .nil

theorem openingEvents_open : AllOpen (openingEvents consulted name t v : List (Event B)) :=
  (lookupEvents_open consulted name).append (.cons rfl .nil)

theorem lookupEvents_failures :
    pluginFailures (lookupEvents consulted name : List (Event B)) = [] := by
  cases consulted <;> rfl

theorem openingEvents_failures :
    pluginFailures (openingEvents consulted name t v : List (Event B)) = [] := by
  cases consulted <;> rfl

end

namespace Engine
variable [Builder B]

def conclude (e : Engine ρ σ B) (c : Container S E) (x : E) (t : TypeName) (g : Progress B)
    (store : S) : Except RunError Outcome × List (Event B) × S :=
  if g.failed then
    (.ok .failed, [.notified (.failure t), .retained (c.name x)], c.retain x store)
  else if !g.transformed then
    (.ok .ignored, [.notified (.ignored t), .retained (c.name x)], c.retain x store)
  else e.commit c x t g.builder store

section
variable {e : Engine ρ σ B} {c : Container S E} {x : E} {pool pool' : ρ} {world world' : σ}
  {store : S} {t : TypeName} {consulted : Bool}

theorem process_of_unresolved
    (unresolved : e.pool.describe (c.name x) pool = (⟨none, consulted⟩, pool')) :
    e.process c x pool world store =
      ⟨.ok .unresolved, lookupEvents consulted (c.name x) ++
        [.notified (.unresolved (c.name x)), .retained (c.name x)], pool', world,
        c.retain x store⟩ := by
  simp only [process, unresolved, lookupEvents]

theorem process_of_unseeded {err : RunError}
    (resolved : e.pool.describe (c.name x) pool = (⟨some t, consulted⟩, pool'))
    (unseeded : e.entryPoint t e.version e.locator world = (.error err, world')) :
    e.process c x pool world store =
      ⟨.error err, openingEvents consulted (c.name x) t e.version, pool', world',
        store⟩ := by
  simp only [process, resolved, unseeded, openingEvents, lookupEvents]

theorem process_of_stopped {b : B} {err : RunError} {events : List (Event B)} {last : σ}
    (resolved : e.pool.describe (c.name x) pool = (⟨some t, consulted⟩, pool'))
    (seeded : e.entryPoint t e.version e.locator world = (.ok b, world'))
    (stopped : applyPlugins e.failurePolicy e.locator t 0 e.plugins ⟨b, false, false⟩ world' =
      (.error err, events, last)) :
    e.process c x pool world store =
      ⟨.error err, openingEvents consulted (c.name x) t e.version ++ events, pool',
        last, store⟩ := by
  simp only [process, resolved, seeded, stopped, openingEvents, lookupEvents]

theorem process_of_folded {b : B} {g : Progress B} {events : List (Event B)} {last : σ}
    (resolved : e.pool.describe (c.name x) pool = (⟨some t, consulted⟩, pool'))
    (seeded : e.entryPoint t e.version e.locator world = (.ok b, world'))
    (folded : applyPlugins e.failurePolicy e.locator t 0 e.plugins ⟨b, false, false⟩ world' =
      (.ok g, events, last)) :
    let ended := e.conclude c x t g store
    e.process c x pool world store =
      ⟨ended.1, openingEvents consulted (c.name x) t e.version ++ events ++ ended.2.1,
        pool', last, ended.2.2⟩ := by
  simp only [process, resolved, seeded, folded, openingEvents, lookupEvents, conclude]
  cases g.failed <;> cases g.transformed <;> rfl

end

section
variable (e : Engine ρ σ B) (c : Container S E) (x : E) (t : TypeName) (g : Progress B) (store : S)

theorem conclude_of_failed (failed : g.failed = true) :
    e.conclude c x t g store =
      (.ok .failed, [.notified (.failure t), .retained (c.name x)], c.retain x store) := by
  simp [conclude, failed]

theorem conclude_of_untransformed (fine : g.failed = false) (same : g.transformed = false) :
    e.conclude c x t g store =
      (.ok .ignored, [.notified (.ignored t), .retained (c.name x)], c.retain x store) := by
  simp [conclude, fine, same]

theorem conclude_of_transformed (fine : g.failed = false) (changed : g.transformed = true) :
    e.conclude c x t g store = e.commit c x t g.builder store := by
  simp [conclude, fine, changed]

end

section
variable (e : Engine ρ σ B) (c : Container S E) (x : E) (t : TypeName) {b : B} {a : Artifact}
  {err : RunError} {store after : S}

theorem commit_of_unmade (unmade : Builder.make b = .error err) :
    e.commit c x t b store = (.error err, [.made b], store) := by
  simp only [commit, unmade]

theorem commit_of_rejected (made : Builder.make b = .ok a)
    (rejected : e.initializerPolicy.check a = .error err) :
    e.commit c x t b store = (.error err, [.made b], store) := by
  simp only [commit, made, rejected]

theorem commit_of_refused (made : Builder.make b = .ok a)
    (passed : e.initializerPolicy.check a = .ok ())
    (refused : c.replace x a store = (.error err, after)) :
    e.commit c x t b store = (.error err, [.made b, .replaced (c.name x) a false], after) := by
  simp only [commit, made, passed, refused]

theorem commit_of_replaced (made : Builder.make b = .ok a)
    (passed : e.initializerPolicy.check a = .ok ())
    (replaced : c.replace x a store = (.ok (), after)) :
    e.commit c x t b store =
      (.ok .success, [.made b, .replaced (c.name x) a true, .notified (.success t)], after) := by
  simp only [commit, made, passed, replaced]

end

theorem commit_exit (e : Engine ρ σ B) (c : Container S E) (x : E) (t : TypeName) (b : B)
    (store : S) :
    let ended := e.commit c x t b store
    Exit c x store ended.1 ended.2.1 ended.2.2 := by
  have madeOpen : AllOpen [Event.made b] := .cons rfl .nil
  cases made : Builder.make b with
  | error err =>
    rw [commit_of_unmade e c x t made]
    exact .givenUp madeOpen .untouched
  | ok a =>
    cases checked : e.initializerPolicy.check a with
    | error err =>
      rw [commit_of_rejected e c x t made checked]
      exact .givenUp madeOpen .untouched
    | ok done =>
      rcases replaced : c.replace x a store with ⟨err | done, after⟩
      · rw [commit_of_refused e c x t made checked replaced]
        exact .givenUp (.cons rfl (.cons rfl .nil)) (.refused replaced)
      · rw [commit_of_replaced e c x t made checked replaced]
        exact .settled madeOpen (.success t a) (.replaced replaced)

theorem conclude_exit (e : Engine ρ σ B) (c : Container S E) (x : E) (t : TypeName)
    (g : Progress B) (store : S) :
    let ended := e.conclude c x t g store
    Exit c x store ended.1 ended.2.1 ended.2.2 := by
  unfold conclude
  split
  · exact Exit.settled AllOpen.nil (.failed t) .retained
  · split
    · exact Exit.settled AllOpen.nil (.ignored t) .retained
    · exact commit_exit e c x t g.builder store

theorem mem_commit {e : Engine ρ σ B} {c : Container S E} {x : E} {t : TypeName} {b : B}
    {store : S} {ev : Event B} (member : ev ∈ (e.commit c x t b store).2.1) :
    ev = .made b ∨ (∃ a written, ev = .replaced (c.name x) a written) ∨
      ev = .notified (.success t) := by
  cases made : Builder.make b with
  | error err =>
    rw [commit_of_unmade e c x t made] at member
    exact Or.inl (List.mem_singleton.mp member)
  | ok a =>
    cases checked : e.initializerPolicy.check a with
    | error err =>
      rw [commit_of_rejected e c x t made checked] at member
      exact Or.inl (List.mem_singleton.mp member)
    | ok done =>
      rcases replaced : c.replace x a store with ⟨err | done, after⟩
      · rw [commit_of_refused e c x t made checked replaced] at member
        simp only [List.mem_cons, List.not_mem_nil, or_false] at member
        exact member.imp_right fun h => Or.inl ⟨a, false, h⟩
      · rw [commit_of_replaced e c x t made checked replaced] at member
        simp only [List.mem_cons, List.not_mem_nil, or_false] at member
        exact member.imp_right fun h => h.imp_left fun h => ⟨a, true, h⟩

theorem conclude_event {e : Engine ρ σ B} {c : Container S E} {x : E} {t : TypeName}
    {g : Progress B} {store : S} {ev : Event B} (member : ev ∈ (e.conclude c x t g store).2.1) :
    ev.application? = none ∧ ev.pluginFailure? = none := by
  unfold conclude at member
  split at member
  · simp only [List.mem_cons, List.not_mem_nil, or_false] at member
    rcases member with rfl | rfl <;> exact ⟨rfl, rfl⟩
  · split at member
    · simp only [List.mem_cons, List.not_mem_nil, or_false] at member
      rcases member with rfl | rfl <;> exact ⟨rfl, rfl⟩
    · obtain rfl | ⟨a, written, rfl⟩ | rfl := mem_commit member <;> exact ⟨rfl, rfl⟩

theorem conclude_applications (e : Engine ρ σ B) (c : Container S E) (x : E) (t : TypeName)
    (g : Progress B) (store : S) : applications (e.conclude c x t g store).2.1 = [] :=
  List.filterMap_eq_nil_iff.mpr fun _ member => (conclude_event member).1

theorem conclude_failures (e : Engine ρ σ B) (c : Container S E) (x : E) (t : TypeName)
    (g : Progress B) (store : S) : pluginFailures (e.conclude c x t g store).2.1 = [] :=
  List.filterMap_eq_nil_iff.mpr fun _ member => (conclude_event member).2

/-- Every way through one element ends in settling it or in giving it up. -/
theorem process_exit (e : Engine ρ σ B) (c : Container S E) (x : E) (pool : ρ) (world : σ)
    (store : S) :
    let ran := e.process c x pool world store
    Exit c x store ran.result ran.events ran.store := by
  rcases found : e.pool.describe (c.name x) pool with ⟨⟨type?, consulted⟩, pool'⟩
  cases type? with
  | none =>
    rw [process_of_unresolved found]
    exact .settled (lookupEvents_open consulted (c.name x)) .unresolved .retained
  | some t =>
    have seeding := openingEvents_open (B := B) consulted (c.name x) t e.version
    rcases begun : e.entryPoint t e.version e.locator world with ⟨result, world'⟩
    cases result with
    | error err =>
      rw [process_of_unseeded found begun]
      exact .givenUp seeding .untouched
    | ok b =>
      have folding :=
        applyPlugins_open t e.locator 0 e.failurePolicy e.plugins ⟨b, false, false⟩ world'
      rcases turned : applyPlugins e.failurePolicy e.locator t 0 e.plugins ⟨b, false, false⟩ world'
        with ⟨folded, events, last⟩
      rw [turned] at folding
      cases folded with
      | error err =>
        rw [process_of_stopped found begun turned]
        exact .givenUp (seeding.append folding) .untouched
      | ok g =>
        rw [process_of_folded found begun turned]
        exact exit_after_open (seeding.append folding) (conclude_exit e c x t g store)

end Engine
end ClassForge
