import ClassForge.Proofs.RunAccounts
import ClassForge.Proofs.ElementFold
import ClassForge.Proofs.PlannedTypes
import ClassForge.Source.Memory

/-!
Runs put together and taken apart. A run over elements and then over others is the one run and then
the other, as long as the first does not end with an error; each element comes to what it comes to
alone, so that the report of a run does not go by their order.
-/
namespace ClassForge
open List (Forall₂)
variable {ρ σ B S E : Type}

namespace Engine
variable [Builder B]

def single (e : Engine ρ σ B) (pool : ρ) (world : σ) :
    Except RunError Offer → Account (Except RunError Report)
  | .error err => ⟨.error err, [], []⟩
  | .ok o => (e.process Offer.container o pool world ()).account.counted

section
variable {e : Engine ρ σ B} {knows : ρ → Prop} (same : e.Repeatable knows) {first : ρ}
  (known : knows first) (begin : σ)
include same known

theorem processAll_account {c : Container S E} {fits : S → Prop} {s : Supply S E}
    {items : List (Except RunError Offer)} (hands : Hands c fits s items)
    (report : Report) {pool : ρ} (knowing : knows pool) (world : σ) {store : S}
    (stored : fits store) :
    let ran := e.processAll c s report pool world store
    ran.account = (Account.inTurn (items.map (e.single first begin))).onTop report ∧
      ∀ r, ran.result = .ok r → fits ran.store := by
  induction items generalizing s report pool world store with
  | nil =>
    rw [processAll_of_exhausted report (hands store stored)]
    exact ⟨rfl, fun _ _ => stored⟩
  | cons item items ih =>
    obtain ⟨head, rest, drawn, shows, later⟩ := hands store stored
    cases shows with
    | unreadable err =>
      rw [processAll_of_unreadable report drawn]
      exact ⟨rfl, nofun⟩
    | @element x o offers =>
      have handed := offers.handedOut store stored
      have account := process_offered offers handed same knowing known world begin
      have pools := e.process_pool c x pool world (c.handOut x store)
      rcases dealt : e.process c x pool world (c.handOut x store) with
        ⟨err | outcome, events, after, left, kept⟩
      · rw [dealt] at account
        rw [processAll_of_givenUp report drawn dealt]
        simp only [List.map_cons, single, ← account]
        exact ⟨rfl, nofun⟩
      · rw [dealt] at account pools
        obtain ⟨a?, -, -, -, -, -, disposed⟩ := process_settled dealt
        have knowingLater : knows after := by
          rw [show after = _ from pools]
          exact same.keeps (c.name x) pool knowing
        obtain ⟨onward, fitting⟩ := ih later (report.record outcome) knowingLater left
          (offers.disposed handed disposed)
        rw [processAll_of_settled report drawn dealt]
        refine ⟨?_, fitting⟩
        simp only [List.map_cons, single, ← account]
        have counted := Account.onTop_counted report outcome (notifications events)
          (disposals events) (Account.inTurn (items.map (e.single first begin)))
        rw [← onward] at counted
        refine Eq.trans ?_ counted.symm
        simp [Ran.account, notifications, List.filterMap_cons, Event.notification?, Event.disposal?]

theorem run_account {source : Source S E} {items : List (Except RunError Offer)}
    (listed : source.Lists items) {pool : ρ} (knowing : knows pool) (world : σ) :
    (e.run source pool world).account = Account.inTurn (items.map (e.single first begin)) := by
  obtain ⟨fits, stored, closing, hands⟩ := listed
  obtain ⟨account, fitting⟩ := processAll_account same known begin hands {} knowing world stored
  rw [run_eq_close, processing, close_account fun r fine => closing _ (fitting r fine)]
  exact account.trans Account.onTop_empty

end

theorem single_settled {e : Engine ρ σ B} {pool : ρ} {world : σ} {item : Except RunError Offer}
    {r : Report} (fine : (e.single pool world item).result = .ok r) :
    ∃ o outcome a?, item = .ok o ∧ r = Report.record {} outcome ∧
      (e.single pool world item).disposed = [(o.name, a?)] := by
  cases item with
  | error err => cases fine
  | ok o =>
    rw [single] at fine ⊢
    rcases dealt : e.process Offer.container o pool world () with
      ⟨err | outcome, events, after, left, kept⟩
    · rw [dealt] at fine
      cases fine
    · rw [dealt] at fine
      obtain ⟨a?, before, last, happened, opened, settles, -⟩ := process_settled dealt
      exact ⟨o, outcome, a?, rfl, (Except.ok.inj fine).symm,
        happened ▸ settled_disposals opened settles⟩

end Engine

/-- Whatever the source, it is only its items that count. -/
theorem Source.offering_lists (items : List (Except RunError Offer)) :
    (Source.offering items).Lists items := by
  refine ⟨fun _ => True, trivial, fun _ _ => rfl,
    hands_listed (List.forall₂_same.mpr fun item _ => ?_)⟩
  cases item with
  | error err => exact .unreadable err
  | ok o =>
    exact .element ⟨rfl, fun _ _ _ => rfl, fun _ _ => trivial, fun _ _ => trivial,
      fun _ _ _ => trivial⟩

structure Composes (account : List (Except RunError Offer) → Account (Except RunError Report)) :
    Prop where
  append : ∀ xs ys, account (xs ++ ys) = (account xs).andThen (account ys)
  /-- In a run without an error, every element is disposed of once, as it is alone. -/
  alone : ∀ items r, (account items).result = .ok r →
    (∀ item ∈ items, ∃ o outcome a?, item = .ok o ∧
      (account [item]).result = .ok (Report.record {} outcome) ∧
      (account [item]).disposed = [(o.name, a?)]) ∧
    (account items).heard = items.flatMap (fun item => (account [item]).heard) ∧
    (account items).disposed = items.flatMap fun item => (account [item]).disposed
  reordered : ∀ items items' r, items.Perm items' → (account items).result = .ok r →
    (account items').result = .ok r

theorem Account.inTurn_composes
    {single : Except RunError Offer → Account (Except RunError Report)}
    (settled : ∀ item r, (single item).result = .ok r → ∃ o outcome a?, item = .ok o ∧
      r = Report.record {} outcome ∧ (single item).disposed = [(o.name, a?)]) :
    Composes fun items => inTurn (items.map single) where
  append xs ys := by rw [List.map_append, inTurn_append]
  alone items r fine := by
    have itself : ∀ item, inTurn ([item].map single) = single item := fun _ => andThen_empty
    obtain ⟨each, heard, disposed⟩ := inTurn_of_ok fine
    simp only [itself]
    refine ⟨fun item member => ?_, ?_, ?_⟩
    · obtain ⟨r, counted⟩ := each _ (List.mem_map_of_mem member)
      obtain ⟨o, outcome, a?, rfl, rfl, disposal⟩ := settled item r counted
      exact ⟨o, outcome, a?, rfl, counted, disposal⟩
    · rw [heard, List.flatMap_map]
    · rw [disposed, List.flatMap_map]
  reordered items items' r same fine := inTurn_perm (same.map single) fine

def Offer.free (name : String) : Except RunError Offer := .ok ⟨name, fun _ => .ok ()⟩

namespace Source

theorem places_show {c : Container S Place} {fits : S → Prop} {names : List String}
    (each : ∀ x : Place, x.index < names.length → Offers c fits x ⟨x.name, fun _ => .ok ()⟩) :
    Forall₂ (Shows c fits) ((places names).map .ok) (names.map Offer.free) := by
  have paired : names.map Offer.free = names.zipIdx.map fun p => Offer.free p.1 := by
    rw [← Function.comp_def Offer.free, ← List.map_map, List.zipIdx_map_fst]
  rw [places, paired, List.map_map, List.forall₂_map_left_iff, List.forall₂_map_right_iff,
    List.forall₂_same]
  intro p member
  exact .element (each ⟨p.2, p.1⟩ (List.snd_lt_of_mem_zipIdx member))

theorem ofStock_lists (stock : Stock) :
    (ofStock stock).Lists (stock.names.map Offer.free) := by
  refine ⟨fun s => s.length = stock.length, rfl, fun _ _ => rfl,
    hands_listed (places_show fun x inside => ?_)⟩
  rw [Stock.names, List.length_map] at inside
  have there : ∀ (a : Artifact) (s : Stock), s.length = stock.length →
      Stock.replace x a s =
        (.ok (), s.modify x.index fun e => { e with bytes := a.bytes, replaced := true }) :=
    fun a s same => if_pos (same ▸ inside)
  constructor
  case name => rfl
  case replace => exact fun a s same => congrArg Prod.fst (there a s same)
  case handedOut => exact fun _ same => same
  case retained => exact fun _ same => same
  case replaced =>
    intro a s same
    change (Stock.replace x a s).2.length = stock.length
    rw [there a s same, List.length_modify, same]

end Source

theorem TypePool.cached_answers {f : String → Option TypeName} {r : Unit × Cache}
    (remembers : Remembers f r.2) (name : String) :
    ((cached (ofFunction f)).describe name r).1.type? = f name ∧
      Remembers f ((cached (ofFunction f)).describe name r).2.2 := by
  obtain ⟨consulted, _, cache', found, kept⟩ :=
    cached_describe (ofFunction_answersBy f) remembers () name
  rw [show r = ((), r.2) from rfl, found]
  exact ⟨rfl, kept⟩

/-- What a run comes to depends on the items of its source alone, and is put together from what they
come to by themselves. -/
theorem runs_compose [Builder B] (e : Engine ρ σ B) {knows : ρ → Prop} (same : e.Repeatable knows)
    (first : ρ) (known : knows first) (begin : σ) :
    let account := fun items => (e.run (Source.offering items) first begin).account
    (∀ {S E : Type} (source : Source S E) (items : List (Except RunError Offer)) (pool : ρ)
      (world : σ), source.Lists items → knows pool →
        (e.run source pool world).account = account items) ∧
    Composes account := by
  intro account
  have accounts : account = fun items => Account.inTurn (items.map (e.single first begin)) :=
    funext fun items =>
      Engine.run_account same known begin (Source.offering_lists items) known begin
  rw [accounts]
  exact ⟨fun source items pool world listed knowing =>
      Engine.run_account same known begin listed knowing world,
    Account.inTurn_composes fun _ _ => Engine.single_settled⟩

theorem Rehearsal.performer_repeatable (p : Performer) : p.toPlugin.Repeatable :=
  ⟨fun _ _ _ => rfl, fun _ _ _ _ _ => rfl⟩

/-- A failing performer and what the pool remembers of the first run leave no trace in the second
one. -/
theorem runs_compose_rehearsed :
    let e : Engine (Unit × TypePool.Cache) Rehearsal.Notes Rehearsal.Recorder :=
      { rehearsal "stage.Play" [⟨0, "first", .everything, .record⟩,
          ⟨1, "hoarse", .these ["stage.Trial"], .fail "no voice"⟩] with
        pool := .cached (.ofFunction fun name => if name == "prop" then none else some ⟨name⟩) }
    let xs : Source.Stock := [⟨"stage.Play", [1], false⟩, ⟨"stage.Trial", [2], false⟩]
    let ys : Source.Stock := [⟨"prop", [3], false⟩, ⟨"stage.Play", [4], false⟩]
    let ran := fun stock => (e.run (.ofStock stock) ((), []) []).account
    (ran (xs ++ ys)).result = .ok { transformed := 2, failed := 1, unresolved := 1 } ∧
      (ran (xs ++ ys)).heard = (ran xs).heard ++ (ran ys).heard ∧
      (ran (xs ++ ys)).disposed = (ran xs).disposed ++ (ran ys).disposed := by
  intro e xs ys ran
  let f : String → Option TypeName := fun name => if name == "prop" then none else some ⟨name⟩
  have same : e.Repeatable fun r => TypePool.Remembers f r.2 := by
    constructor
    case plugins =>
      intro p member
      obtain ⟨performer, -, rfl⟩ := List.mem_map.mp member
      exact Rehearsal.performer_repeatable performer
    case seeds => exact fun _ _ _ => rfl
    case resolves =>
      intro name r r' knows knows'
      exact (TypePool.cached_answers knows name).1.trans
        (TypePool.cached_answers knows' name).1.symm
    case keeps => exact fun name r knows => (TypePool.cached_answers knows name).2
  have fresh : TypePool.Remembers f (([] : TypePool.Cache)) := nofun
  obtain ⟨lists, composes⟩ := runs_compose e same ((), []) fresh []
  have each : ∀ stock : Source.Stock,
      ran stock = (e.run (.offering (stock.names.map Offer.free)) ((), []) []).account :=
    fun stock => lists _ _ ((), []) [] (Source.ofStock_lists stock) fresh
  have whole : ran (xs ++ ys) = (ran xs).andThen (ran ys) := by
    rw [each, each, each]
    exact composes.append (xs.names.map Offer.free) (ys.names.map Offer.free)
  have first : (ran xs).result = .ok { transformed := 1, failed := 1 } := by decide
  have second : (ran ys).result = .ok { transformed := 1, unresolved := 1 } := by decide
  rw [whole, Account.andThen_of_ok first, second]
  exact ⟨by decide, rfl, rfl⟩

end ClassForge
