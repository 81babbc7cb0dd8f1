import ClassForge.Proofs.RunCourse
import Mathlib.Data.List.Forall2

/-!
What can be seen of a run from outside: its result, what listeners hear, and what becomes of the
elements. Where plugins, entry point and pool go by what they are given, and the elements of a
source do not depend on one another, this is put together from what each element comes to by itself.
-/
namespace ClassForge
open List (Forall₂)
variable {ρ σ B S E α : Type}

structure Account (α : Type) where
  result : α
  heard : List Notification
  disposed : List (String × Option Artifact)

def Ran.account (ran : Ran ρ σ B S α) : Account α :=
  ⟨ran.result, notifications ran.events, disposals ran.events⟩

namespace Report

theorem empty_add (r : Report) : Report.add {} r = r := by simp [add]

theorem add_empty (r : Report) : r.add {} = r := rfl

theorem add_assoc (a b c : Report) : (a.add b).add c = a.add (b.add c) := by
  simp [add, Nat.add_assoc]

theorem add_comm (a b : Report) : a.add b = b.add a := by
  simp [add, Nat.add_comm]

theorem record_eq_add (r : Report) (o : Outcome) : r.record o = r.add (Report.record {} o) := by
  cases o <;> rfl

end Report

namespace Account

def empty : Account (Except RunError Report) := ⟨.ok {}, [], []⟩

/-- First this, and unless it ends with an error, then that. -/
def andThen (first second : Account (Except RunError Report)) :
    Account (Except RunError Report) :=
  match first.result with
  | .error _ => first
  | .ok r =>
    ⟨second.result.map r.add, first.heard ++ second.heard, first.disposed ++ second.disposed⟩

def counted (a : Account (Except RunError Outcome)) : Account (Except RunError Report) :=
  ⟨a.result.map (Report.record {}), a.heard, a.disposed⟩

def onTop (r : Report) (a : Account (Except RunError Report)) : Account (Except RunError Report) :=
  { a with result := a.result.map r.add }

def inTurn (accounts : List (Account (Except RunError Report))) :
    Account (Except RunError Report) :=
  accounts.foldr andThen empty

variable {a b c : Account (Except RunError Report)} {r : Report} {err : RunError}

theorem andThen_of_error (failed : a.result = .error err) : a.andThen b = a := by
  simp only [andThen, failed]

theorem andThen_of_ok (fine : a.result = .ok r) :
    a.andThen b = ⟨b.result.map r.add, a.heard ++ b.heard, a.disposed ++ b.disposed⟩ := by
  simp only [andThen, fine]

theorem andThen_ok_iff :
    (a.andThen b).result = .ok r ↔
      ∃ ra rb, a.result = .ok ra ∧ b.result = .ok rb ∧ r = ra.add rb := by
  cases first : a.result with
  | error err => simp [andThen_of_error first, first]
  | ok ra =>
    rw [andThen_of_ok first]
    cases second : b.result with
    | error err => simp [Except.map]
    | ok rb => simp [Except.map, eq_comm]

theorem empty_andThen : empty.andThen a = a := by
  obtain ⟨result, heard, disposed⟩ := a
  cases result <;> simp [andThen, empty, Except.map, Report.empty_add]

theorem andThen_empty : a.andThen empty = a := by
  obtain ⟨result, heard, disposed⟩ := a
  cases result <;> simp [andThen, empty, Except.map, Report.add_empty]

theorem andThen_assoc : (a.andThen b).andThen c = a.andThen (b.andThen c) := by
  cases first : a.result with
  | error err => simp only [andThen_of_error first]
  | ok ra =>
    rw [andThen_of_ok first, andThen_of_ok first]
    cases second : b.result with
    | error err => simp [andThen, second, Except.map]
    | ok rb =>
      cases third : c.result <;>
        simp [andThen, second, third, Except.map, Report.add_assoc, List.append_assoc]

theorem onTop_empty : a.onTop {} = a := by
  obtain ⟨result, _, _⟩ := a
  cases result <;> simp [onTop, Except.map, Report.empty_add]

theorem onTop_counted (r : Report) (o : Outcome) (heard : List Notification)
    (disposed : List (String × Option Artifact)) (rest : Account (Except RunError Report)) :
    ((counted ⟨.ok o, heard, disposed⟩).andThen rest).onTop r =
      ⟨(rest.onTop (r.record o)).result, heard ++ (rest.onTop (r.record o)).heard,
        disposed ++ (rest.onTop (r.record o)).disposed⟩ := by
  obtain ⟨result, _, _⟩ := rest
  cases result <;>
    simp [andThen, counted, onTop, Except.map, Report.record_eq_add r o, Report.add_assoc]

theorem inTurn_append (as bs : List (Account (Except RunError Report))) :
    inTurn (as ++ bs) = (inTurn as).andThen (inTurn bs) := by
  induction as with
  | nil => exact empty_andThen.symm
  | cons a as ih =>
    change a.andThen (inTurn (as ++ bs)) = (a.andThen (inTurn as)).andThen (inTurn bs)
    rw [ih, andThen_assoc]

theorem inTurn_of_ok {as : List (Account (Except RunError Report))}
    (fine : (inTurn as).result = .ok r) :
    (∀ a ∈ as, ∃ r, a.result = .ok r) ∧ (inTurn as).heard = as.flatMap heard ∧
      (inTurn as).disposed = as.flatMap disposed := by
  induction as generalizing r with
  | nil => exact ⟨by simp, rfl, rfl⟩
  | cons a as ih =>
    obtain ⟨ra, rest, first, later, -⟩ := andThen_ok_iff.mp fine
    obtain ⟨each, heard, disposed⟩ := ih later
    have joined : inTurn (a :: as) = _ := andThen_of_ok first
    rw [joined]
    exact ⟨List.forall_mem_cons.mpr ⟨⟨ra, first⟩, each⟩, congrArg (a.heard ++ ·) heard,
      congrArg (a.disposed ++ ·) disposed⟩

theorem inTurn_perm {as bs : List (Account (Except RunError Report))} (same : as.Perm bs)
    (fine : (inTurn as).result = .ok r) : (inTurn bs).result = .ok r := by
  induction same generalizing r with
  | nil => exact fine
  | cons a _ ih =>
    obtain ⟨ra, rest, first, later, sum⟩ := andThen_ok_iff.mp fine
    exact andThen_ok_iff.mpr ⟨ra, rest, first, ih later, sum⟩
  | swap a b as =>
    obtain ⟨rb, rest, first, later, sum⟩ := andThen_ok_iff.mp fine
    obtain ⟨ra, rest, second, last, rfl⟩ := andThen_ok_iff.mp later
    refine andThen_ok_iff.mpr ⟨ra, _, second, andThen_ok_iff.mpr ⟨rb, rest, first, last, rfl⟩, ?_⟩
    rw [sum, ← Report.add_assoc, ← Report.add_assoc, Report.add_comm rb]
  | trans _ _ ihFirst ihSecond => exact ihSecond (ihFirst fine)

end Account

/-- A plugin whose answers depend on nothing but what it is given. It may fail and panic. -/
structure Plugin.Repeatable (p : Plugin σ B) : Prop where
  selects : ∀ t s s', (p.selects t s).1 = (p.selects t s').1
  applies : ∀ b t l s s', (p.apply b t l s).1 = (p.apply b t l s').1

/-- An engine whose collaborators go by what they are given. A pool may remember answers: what holds
of all the states that it gets into is told by `knows`. -/
structure Engine.Repeatable (e : Engine ρ σ B) (knows : ρ → Prop) : Prop where
  plugins : ∀ p ∈ e.plugins, p.Repeatable
  seeds : ∀ t s s', (e.entryPoint t e.version e.locator s).1 =
    (e.entryPoint t e.version e.locator s').1
  resolves : ∀ name r r', knows r → knows r' →
    (e.pool.describe name r).1.type? = (e.pool.describe name r').1.type?
  keeps : ∀ name r, knows r → knows (e.pool.describe name r).2

/-- An element as an engine knows it: its name, and what comes of replacing it. -/
structure Offer where
  name : String
  replace : Artifact → Except RunError Unit

def Offer.container : Container Unit Offer where
  name := Offer.name
  handOut _ _ := ()
  retain _ _ := ()
  replace o a _ := (o.replace a, ())
  close _ := (.ok (), ())

/-- The element of a container is as offered in every store that fits, and whatever is done with it
leaves such a store. -/
structure Offers (c : Container S E) (fits : S → Prop) (x : E) (o : Offer) : Prop where
  name : c.name x = o.name
  replace : ∀ a s, fits s → (c.replace x a s).1 = o.replace a
  handedOut : ∀ s, fits s → fits (c.handOut x s)
  retained : ∀ s, fits s → fits (c.retain x s)
  replaced : ∀ a s, fits s → fits (c.replace x a s).2

inductive Shows (c : Container S E) (fits : S → Prop) :
    Except RunError E → Except RunError Offer → Prop where
  | unreadable (err : RunError) : Shows c fits (.error err) (.error err)
  | element {x : E} {o : Offer} (offers : Offers c fits x o) : Shows c fits (.ok x) (.ok o)

/-- In every store that fits, what comes next is the first of the items, and then the others. -/
def Hands (c : Container S E) (fits : S → Prop) :
    Supply S E → List (Except RunError Offer) → Prop
  | s, [] => ∀ store, fits store → s.draw store = none
  | s, item :: items => ∀ store, fits store → ∃ head rest, s.draw store = some (head, rest) ∧
      Shows c fits head item ∧ Hands c fits rest items

theorem hands_listed {c : Container S E} {fits : S → Prop} {pending : List (Except RunError E)}
    {items : List (Except RunError Offer)} (shown : Forall₂ (Shows c fits) pending items) :
    Hands c fits (.ofList pending) items := by
  induction shown with
  | nil => exact fun store _ => rfl
  | cons first later ih => exact fun store _ => ⟨_, _, rfl, first, ih⟩

/-- The source hands out these items, whatever has become of those before, and can be closed. -/
def Source.Lists (source : Source S E) (items : List (Except RunError Offer)) : Prop :=
  ∃ fits : S → Prop, fits source.store ∧
    (∀ s, fits s → (source.container.close s).1 = .ok ()) ∧
    Hands source.container fits source.pending items

def Source.offering (items : List (Except RunError Offer)) : Source Unit Offer where
  container := Offer.container
  pending := .ofList items
  store := ()

section
variable {t : TypeName} {l : Locator}

theorem attempt_repeats {p : Plugin σ B} (same : p.Repeatable) (i : Nat) (b : B) (s s' : σ) :
    (p.attempt i b t l s).1 = (p.attempt i b t l s').1 ∧
      (p.attempt i b t l s).2.1 = (p.attempt i b t l s').2.1 := by
  have answers := same.selects t s s'
  rcases asked : p.selects t s with ⟨answer, after⟩
  rcases asked' : p.selects t s' with ⟨answer', after'⟩
  rw [asked, asked'] at answers
  obtain rfl : answer = answer' := answers
  unfold Plugin.attempt
  rw [asked, asked']
  cases answer with
  | panicked m => exact ⟨rfl, rfl⟩
  | returned selected =>
    cases selected with
    | false => exact ⟨rfl, rfl⟩
    | true =>
      have responses := same.applies b t l after after'
      rcases applied : p.apply b t l after with ⟨response, last⟩
      rcases applied' : p.apply b t l after' with ⟨response', last'⟩
      rw [applied, applied'] at responses
      obtain rfl : response = response' := responses
      rcases response with (f | b') | m <;> simp only [applied, applied', and_self]

theorem applyPlugins_repeats {ps : List (Plugin σ B)} (same : ∀ p ∈ ps, p.Repeatable)
    (policy : FailurePolicy) (i : Nat) (g : Progress B) (s s' : σ) :
    (applyPlugins policy l t i ps g s).1 = (applyPlugins policy l t i ps g s').1 ∧
      (applyPlugins policy l t i ps g s).2.1 = (applyPlugins policy l t i ps g s').2.1 := by
  induction ps generalizing i g s s' with
  | nil => exact ⟨rfl, rfl⟩
  | cons p ps ih =>
    obtain ⟨first, rest⟩ := List.forall_mem_cons.mp same
    obtain ⟨attempts, tells⟩ := attempt_repeats (t := t) (l := l) first i g.builder s s'
    rcases tried : p.attempt i g.builder t l s with ⟨attempt, events, after⟩
    rcases tried' : p.attempt i g.builder t l s' with ⟨attempt', events', after'⟩
    rw [tried, tried'] at attempts tells
    obtain rfl : attempt = attempt' := attempts
    obtain rfl : events = events' := tells
    rw [applyPlugins, applyPlugins, tried, tried']
    cases attempt with
    | passed =>
      obtain ⟨result, more⟩ := ih rest (i + 1) g after after'
      exact ⟨result, congrArg (events ++ ·) more⟩
    | applied b =>
      obtain ⟨result, more⟩ := ih rest (i + 1) { g with builder := b, transformed := true }
        after after'
      exact ⟨result, congrArg (events ++ ·) more⟩
    | failed f =>
      cases policy with
      | failFast notify => exact ⟨rfl, rfl⟩
      | proceed =>
        obtain ⟨result, more⟩ := ih rest (i + 1) { g with failed := true } after after'
        exact ⟨result, congrArg (events ++ .notified (.pluginFailure t f) :: ·) more⟩

end

theorem account_after_opening {consulted : Bool} {name : String} {t : TypeName} {v : FormatVersion}
    {result : α} {events : List (Event B)} {pool : ρ} {world : σ} {store : S} :
    Ran.account ⟨result, openingEvents consulted name t v ++ events, pool, world, store⟩ =
      ⟨result, notifications events, disposals events⟩ := by
  have quiet : notifications (openingEvents consulted name t v : List (Event B)) = [] := by
    cases consulted <;> rfl
  have kept : disposals (openingEvents consulted name t v : List (Event B)) = [] :=
    (openingEvents_open consulted name t v).disposals_eq
  simp only [Ran.account, notifications_append, List.filterMap_append, quiet, kept,
    List.nil_append]

theorem close_account {c : Container S E} {ran : Ran ρ σ B S (Except RunError Report)}
    (closing : ∀ r, ran.result = .ok r → (c.close ran.store).1 = .ok ()) :
    (ran.close c).account = ran.account := by
  obtain ⟨result, events, pool, world, store⟩ := ran
  cases result with
  | error err => simp [Ran.account, Ran.close, closingResult, notifications, Event.notification?,
      Event.disposal?]
  | ok r =>
    have closed := closing r rfl
    simp only at closed
    simp [Ran.account, Ran.close, closingResult, closed, notifications, Event.notification?,
      Event.disposal?]

namespace Engine
variable [Builder B] {e : Engine ρ σ B} {c : Container S E} {fits : S → Prop} {x : E} {o : Offer}
  (offers : Offers c fits x o) {store : S} (stored : fits store)

section
include offers stored

theorem commit_offered (e : Engine ρ σ B) (t : TypeName) (b : B) :
    (e.commit c x t b store).1 = (e.commit Offer.container o t b ()).1 ∧
      (e.commit c x t b store).2.1 = (e.commit Offer.container o t b ()).2.1 := by
  cases made : Builder.make b with
  | error err =>
    rw [commit_of_unmade e c x t made, commit_of_unmade e _ o t made]
    exact ⟨rfl, rfl⟩
  | ok a =>
    cases checked : e.initializerPolicy.check a with
    | error err =>
      rw [commit_of_rejected e c x t made checked, commit_of_rejected e _ o t made checked]
      exact ⟨rfl, rfl⟩
    | ok done =>
      have same := offers.replace a store stored
      rcases replaced : c.replace x a store with ⟨result, after⟩
      rw [replaced] at same
      have offered : Offer.container.replace o a () = (result, ()) := Prod.ext same.symm rfl
      cases result with
      | error err =>
        rw [commit_of_refused e c x t made checked replaced,
          commit_of_refused e _ o t made checked offered, offers.name]
        exact ⟨rfl, rfl⟩
      | ok done =>
        rw [commit_of_replaced e c x t made checked replaced,
          commit_of_replaced e _ o t made checked offered, offers.name]
        exact ⟨rfl, rfl⟩

theorem conclude_offered (e : Engine ρ σ B) (t : TypeName) (g : Progress B) :
    (e.conclude c x t g store).1 = (e.conclude Offer.container o t g ()).1 ∧
      (e.conclude c x t g store).2.1 = (e.conclude Offer.container o t g ()).2.1 := by
  have named : c.name x = Offer.container.name o := offers.name
  unfold conclude
  split
  · exact ⟨rfl, by rw [named]⟩
  · split
    · exact ⟨rfl, by rw [named]⟩
    · exact commit_offered offers stored e t g.builder

end

section
include offers stored

/-- What an element comes to is settled by its offer. What was kept of other elements, here or
elsewhere, makes no difference. -/
theorem process_offered {knows : ρ → Prop} (same : e.Repeatable knows) {pool pool' : ρ}
    (known : knows pool) (known' : knows pool') (world world' : σ) :
    (e.process c x pool world store).account =
      (e.process Offer.container o pool' world' ()).account := by
  have named : c.name x = Offer.container.name o := offers.name
  have resolves := same.resolves (c.name x) pool pool' known known'
  rcases found : e.pool.describe (c.name x) pool with ⟨⟨type?, consulted⟩, after⟩
  rcases found' : e.pool.describe (c.name x) pool' with ⟨⟨type?', consulted'⟩, after'⟩
  rw [found, found'] at resolves
  obtain rfl : type? = type?' := resolves
  rw [named] at found'
  cases type? with
  | none =>
    rw [process_of_unresolved found, process_of_unresolved found', named]
    cases consulted <;> cases consulted' <;> rfl
  | some t =>
    have seeds := same.seeds t world world'
    rcases begun : e.entryPoint t e.version e.locator world with ⟨result, begin⟩
    rcases begun' : e.entryPoint t e.version e.locator world' with ⟨result', begin'⟩
    rw [begun, begun'] at seeds
    obtain rfl : result = result' := seeds
    cases result with
    | error err =>
      rw [process_of_unseeded found begun, process_of_unseeded found' begun',
        ← List.append_nil (openingEvents ..), ← List.append_nil (openingEvents consulted' ..),
        account_after_opening, account_after_opening]
    | ok b =>
      obtain ⟨results, tells⟩ := applyPlugins_repeats (t := t) (l := e.locator) same.plugins
        e.failurePolicy 0 ⟨b, false, false⟩ begin begin'
      rcases turned : applyPlugins e.failurePolicy e.locator t 0 e.plugins ⟨b, false, false⟩ begin
        with ⟨folded, events, last⟩
      rcases turned' : applyPlugins e.failurePolicy e.locator t 0 e.plugins ⟨b, false, false⟩
        begin' with ⟨folded', events', last'⟩
      rw [turned, turned'] at results tells
      obtain rfl : folded = folded' := results
      obtain rfl : events = events' := tells
      cases folded with
      | error err =>
        rw [process_of_stopped found begun turned, process_of_stopped found' begun' turned',
          account_after_opening, account_after_opening]
      | ok g =>
        obtain ⟨ended, told⟩ := conclude_offered offers stored e t g
        rw [process_of_folded found begun turned, process_of_folded found' begun' turned',
          List.append_assoc, List.append_assoc, account_after_opening, account_after_opening,
          ended, told]

end

theorem process_pool (e : Engine ρ σ B) (c : Container S E) (x : E) (pool : ρ) (world : σ)
    (store : S) :
    (e.process c x pool world store).pool = (e.pool.describe (c.name x) pool).2 := by
  rcases found : e.pool.describe (c.name x) pool with ⟨⟨type?, consulted⟩, after⟩
  cases type? with
  | none => rw [process_of_unresolved found]
  | some t =>
    rcases begun : e.entryPoint t e.version e.locator world with ⟨err | b, begin⟩
    · rw [process_of_unseeded found begun]
    · rcases turned : applyPlugins e.failurePolicy e.locator t 0 e.plugins ⟨b, false, false⟩ begin
        with ⟨err | g, events, last⟩
      · rw [process_of_stopped found begun turned]
      · rw [process_of_folded found begun turned]

end Engine

theorem Offers.disposed {c : Container S E} {fits : S → Prop} {x : E} {o : Offer}
    (offers : Offers c fits x o) {store after : S} (stored : fits store) {a? : Option Artifact}
    (h : Disposed c x store a? after) : fits after := by
  cases h with
  | retained => exact offers.retained store stored
  | @replaced a _ done => exact (congrArg (fits ·.2) done).mp (offers.replaced a store stored)

end ClassForge
