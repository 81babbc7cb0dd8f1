import ClassForge.Source.Archive
import ClassForge.Source.Memory
import Mathlib.Data.List.Basic
import Mathlib.Logic.Relation

/-!
Elements that are used in any order. An element is handed out by its source and used up by what is
done with it, at any time after. Elements of entries in memory or in a ledger stand for the places of
these entries: whatever else is handed out or used in between, each writes its own entry and nothing
else, so that the entries at the end only depend on what was done with each.
-/
namespace ClassForge.Source
variable {S E α : Type}

/-- What is done with an element, which is used up by it. -/
inductive Deed where
  | retain
  | replace (artifact : Artifact)
  deriving DecidableEq, Repr

def perform (s : Source S E) (x : E) : Deed → Except RunError Unit × Source S E
  | .retain => (.ok (), s.retain x)
  | .replace a => s.replace x a

/-- A source in use, with the elements that it has handed out and what was done with each. -/
structure Session (S E : Type) where
  source : Source S E
  handed : List (E × Option Deed) := []

namespace Session

def deed? (s : Session S E) (i : Nat) : Option Deed := s.handed[i]?.bind (·.2)

def next (s : Session S E) : Session S E :=
  match s.source.next with
  | (some (.ok x), source) => ⟨source, s.handed ++ [(x, none)]⟩
  | (_, source) => { s with source }

def use (s : Session S E) (i : Nat) (x : E) (d : Deed) : Session S E :=
  ⟨(s.source.perform x d).2, s.handed.set i (x, some d)⟩

def close (s : Session S E) : Session S E := { s with source := s.source.close.2 }

/-- An element can be used as long as it was not, whatever happened since it was handed out. -/
inductive Move : Session S E → Session S E → Prop where
  | next (s : Session S E) : Move s s.next
  | use {s : Session S E} {i : Nat} {x : E} (unused : s.handed[i]? = some (x, none)) (d : Deed) :
    Move s (s.use i x d)
  | close (s : Session S E) : Move s s.close

def Reached (source : Source S E) : Session S E → Prop := Relation.ReflTransGen Move ⟨source, []⟩

theorem deed?_next (s : Session S E) : s.next.deed? = s.deed? := by
  funext i
  rw [next]
  split
  · rename_i x source _
    rw [deed?, deed?, List.getElem?_append]
    split
    · rfl
    · rename_i beyond
      rw [List.getElem?_eq_none (Nat.le_of_not_lt beyond), List.getElem?_singleton]
      split <;> rfl
  · rfl

theorem deed?_use {s : Session S E} {i : Nat} {x : E} (unused : s.handed[i]? = some (x, none))
    (d : Deed) : (s.use i x d).deed? = fun j => if j = i then some d else s.deed? j := by
  have inside := (List.getElem?_eq_some_iff.mp unused).1
  funext j
  rw [deed?, use, List.getElem?_set]
  by_cases here : j = i
  · rw [if_pos here.symm, if_pos here, if_pos inside]
    rfl
  · rw [if_neg (Ne.symm here), if_neg here, deed?]

end Session

open Session

/-- A container of entries of which the elements are the places: what is done with an element is
done to the entry at its place, and entries keep their names. -/
structure Slots (c : Container (List α) Place) (name : α → String) (done : Deed → α → α) :
    Prop where
  handOut (x : Place) (l : List α) : c.handOut x l = l
  retain (x : Place) (l : List α) : c.retain x l = l.modify x.index (done .retain)
  replace {x : Place} {l : List α} (there : x.index < l.length) (a : Artifact) :
    c.replace x a l = (.ok (), l.modify x.index (done (.replace a)))
  close (l : List α) : c.close l = (.ok (), l)
  lasting : c.endsWhenClosed = false
  named (d : Deed) (e : α) : name (done d e) = name e

/-- The entries after what was done with the element of each. -/
def afterDeeds (done : Deed → α → α) (deed? : Nat → Option Deed) (entries : List α) : List α :=
  entries.mapIdx fun i e => (deed? i).elim e (done · e)

/-- Each element writes its own entry, in whatever order they are used. -/
structure WritesOwn (source : Source (List α) Place) (name : α → String) (done : Deed → α → α)
    (entries : List α) : Prop where
  handed : ∀ s, Reached source s → s.source.next.1 =
    (s.source.store.map name)[s.handed.length]?.map fun n => .ok ⟨s.handed.length, n⟩
  /-- The `i`-th element stands for the `i`-th entry, which is there. -/
  there : ∀ s, Reached source s → ∀ (i : Nat) (x : Place) (deed : Option Deed),
    s.handed[i]? = some (x, deed) → x.index = i ∧ s.source.store[i]?.map name = some x.name
  accepted : ∀ s, Reached source s → ∀ (i : Nat) (x : Place), s.handed[i]? = some (x, none) →
    ∀ d, (s.source.perform x d).1 = .ok ()
  /-- Using the `i`-th element changes the `i`-th entry, and no other. -/
  own : ∀ s, Reached source s → ∀ (i : Nat) (x : Place), s.handed[i]? = some (x, none) →
    ∀ (d : Deed) (j : Nat), (s.use i x d).source.store[j]? =
      if j = i then s.source.store[j]?.map (done d) else s.source.store[j]?
  still : ∀ s, Reached source s →
    s.next.source.store = s.source.store ∧ s.close.source.store = s.source.store
  names : ∀ s, Reached source s → s.source.store.map name = entries.map name
  told : ∀ s, Reached source s → s.source.store = afterDeeds done s.deed? entries
  unordered : ∀ s s', Reached source s → Reached source s' → (∀ i, s.deed? i = s'.deed? i) →
    s.source.store = s'.source.store

theorem getElem?_places (names : List String) (i : Nat) :
    (places names)[i]? = names[i]?.map fun n => ⟨i, n⟩ := by
  simp [places, Function.comp_def]

section
variable (done : Deed → α → α) (deed? : Nat → Option Deed) (entries : List α)

theorem getElem?_afterDeeds (i : Nat) :
    (afterDeeds done deed? entries)[i]? = entries[i]?.map fun e => (deed? i).elim e (done · e) :=
  List.getElem?_mapIdx

theorem length_afterDeeds : (afterDeeds done deed? entries).length = entries.length :=
  List.length_mapIdx

theorem names_afterDeeds {name : α → String} (named : ∀ d e, name (done d e) = name e) :
    (afterDeeds done deed? entries).map name = entries.map name := by
  refine List.ext_getElem? fun i => ?_
  rw [List.getElem?_map, getElem?_afterDeeds, List.getElem?_map, Option.map_map]
  congr 1
  funext e
  cases deed? i <;> simp [named]

theorem modify_afterDeeds {i : Nat} (unused : deed? i = none) (d : Deed) :
    (afterDeeds done deed? entries).modify i (done d) =
      afterDeeds done (fun j => if j = i then some d else deed? j) entries := by
  refine List.ext_getElem? fun j => ?_
  rw [List.getElem?_modify, getElem?_afterDeeds, getElem?_afterDeeds]
  by_cases same : j = i
  · subst same
    cases entries[j]? <;> simp [unused]
  · cases entries[j]? <;> simp [same, Ne.symm same]

end

structure Stands (c : Container (List α) Place) (name : α → String) (done : Deed → α → α)
    (entries : List α) (s : Session (List α) Place) : Prop where
  container : s.source.container = c
  elements : ∃ rest, places (entries.map name) = s.handed.map (·.1) ++ rest ∧
    s.source.pending = .ofList (rest.map .ok)
  store : s.source.store = afterDeeds done s.deed? entries

section
variable {c : Container (List α) Place} {name : α → String} {done : Deed → α → α}
  {entries : List α} {s : Session (List α) Place} (slots : Slots c name done)

namespace Stands

theorem start (source : Source (List α) Place) (container : source.container = c)
    (pending : source.pending = .ofList ((places (entries.map name)).map .ok))
    (store : source.store = entries) : Stands c name done entries ⟨source, []⟩ where
  container := container
  elements := ⟨_, rfl, pending⟩
  store := by
    refine store.trans (List.ext_getElem? fun i => ?_)
    simp [getElem?_afterDeeds, deed?]

variable (stands : Stands c name done entries s)
include stands

theorem place {i : Nat} {x : Place} {deed : Option Deed} (handed : s.handed[i]? = some (x, deed)) :
    x.index = i ∧ (entries.map name)[i]? = some x.name := by
  obtain ⟨rest, all, -⟩ := stands.elements
  have here : (places (entries.map name))[i]? = some x := by
    have inside := (List.getElem?_eq_some_iff.mp handed).1
    rw [all, List.getElem?_append_left (by simpa using inside), List.getElem?_map, handed]
    rfl
  rw [getElem?_places] at here
  obtain ⟨n, named, rfl⟩ := Option.map_eq_some_iff.mp here
  exact ⟨rfl, named⟩

theorem inside {i : Nat} {x : Place} {deed : Option Deed}
    (handed : s.handed[i]? = some (x, deed)) : x.index < s.source.store.length := by
  obtain ⟨index, named⟩ := stands.place handed
  rw [stands.store, length_afterDeeds, index]
  simpa using (List.getElem?_eq_some_iff.mp named).1

include slots

theorem names : s.source.store.map name = entries.map name := by
  rw [stands.store]
  exact names_afterDeeds done s.deed? entries slots.named

theorem next_eq : s.source.next.1 =
    (s.source.store.map name)[s.handed.length]?.map fun n => .ok ⟨s.handed.length, n⟩ := by
  obtain ⟨rest, all, pending⟩ := stands.elements
  have first : rest.head? =
      (entries.map name)[s.handed.length]?.map fun n => ⟨s.handed.length, n⟩ := by
    rw [← getElem?_places, all, List.getElem?_append_right (by simp), List.head?_eq_getElem?]
    simp
  have yielded : s.source.next.1 = rest.head?.map .ok := by
    rw [Source.next, pending]
    cases rest <;> rfl
  rw [yielded, first, stands.names slots, Option.map_map]
  rfl

theorem perform_eq {i : Nat} {x : Place} (unused : s.handed[i]? = some (x, none)) (d : Deed) :
    s.source.perform x d =
      (.ok (), ⟨s.source.container, s.source.pending, s.source.store.modify i (done d)⟩) := by
  obtain ⟨rfl, -⟩ := stands.place unused
  have inside := stands.inside unused
  cases d with
  | retain => simp only [perform, Source.retain, stands.container, slots.retain]
  | replace a => simp only [perform, Source.replace, stands.container, slots.replace inside]

theorem after_next : Stands c name done entries s.next := by
  have same := s.deed?_next
  obtain ⟨container, ⟨rest, all, pending⟩, store⟩ := stands
  rw [Session.next, Source.next, pending] at same ⊢
  cases rest with
  | nil => exact ⟨container, ⟨[], all, pending⟩, store⟩
  | cons x rest =>
    rw [List.map_cons, Supply.draw_ofList_cons] at same ⊢
    refine ⟨container, ⟨rest, by simp [all], rfl⟩, ?_⟩
    rw [same, ← store]
    exact container ▸ slots.handOut x s.source.store

theorem after_use {i : Nat} {x : Place} (unused : s.handed[i]? = some (x, none)) (d : Deed) :
    Stands c name done entries (s.use i x d) := by
  have performed := stands.perform_eq slots unused d
  have told := deed?_use unused d
  have idle : s.deed? i = none := by rw [deed?, unused]; rfl
  obtain ⟨container, ⟨rest, all, pending⟩, store⟩ := stands
  have same : (s.handed.set i (x, some d)).map (·.1) = s.handed.map (·.1) := by
    obtain ⟨inside, here⟩ := List.getElem?_eq_some_iff.mp unused
    have own := @List.set_getElem_self _ (s.handed.map (·.1)) i (by simpa using inside)
    rw [List.getElem_map, here] at own
    rwa [List.map_set]
  rw [use, performed] at told ⊢
  refine ⟨container, ⟨rest, by rw [same, all], pending⟩, ?_⟩
  rw [told, ← modify_afterDeeds done s.deed? entries idle d, store]

theorem after_close : Stands c name done entries s.close := by
  obtain ⟨container, elements, store⟩ := stands
  have closed : s.source.close.2 = s.source := by
    simp only [Source.close, container, slots.close, slots.lasting]
    rw [if_neg (by decide), ← container]
  rw [Session.close, closed]
  exact ⟨container, elements, store⟩

theorem after_move {s' : Session (List α) Place} (move : Move s s') :
    Stands c name done entries s' := by
  cases move with
  | next => exact stands.after_next slots
  | use unused d => exact stands.after_use slots unused d
  | close => exact stands.after_close slots

end Stands

include slots

theorem Stands.after_moves {s s' : Session (List α) Place} (start : Stands c name done entries s)
    (moves : Relation.ReflTransGen Move s s') : Stands c name done entries s' := by
  induction moves with
  | refl => exact start
  | tail _ move stands => exact stands.after_move slots move

theorem writesOwn {source : Source (List α) Place} (container : source.container = c)
    (pending : source.pending = .ofList ((places (entries.map name)).map .ok))
    (store : source.store = entries) : WritesOwn source name done entries := by
  have stands (s : Session (List α) Place) (reached : Reached source s) :
      Stands c name done entries s :=
    (Stands.start source container pending store).after_moves slots reached
  constructor
  case handed => exact fun s reached => (stands s reached).next_eq slots
  case there =>
    intro s reached i x deed handed
    obtain ⟨index, named⟩ := (stands s reached).place handed
    rw [← List.getElem?_map, (stands s reached).names slots]
    exact ⟨index, named⟩
  case accepted =>
    intro s reached i x unused d
    rw [(stands s reached).perform_eq slots unused]
  case own =>
    intro s reached i x unused d j
    rw [use, (stands s reached).perform_eq slots unused]
    change (s.source.store.modify i (done d))[j]? = _
    rw [List.getElem?_modify]
    by_cases same : j = i
    · subst same
      simp
    · simp [same, Ne.symm same]
  case still =>
    intro s reached
    have before := (stands s reached).store
    constructor
    · rw [((stands s reached).after_next slots).store, deed?_next, before]
    · rw [((stands s reached).after_close slots).store, before]
      rfl
  case names => exact fun s reached => (stands s reached).names slots
  case told => exact fun s reached => (stands s reached).store
  case unordered =>
    intro s s' reached reached' same
    rw [(stands s reached).store, (stands s' reached').store, funext same]

end

def Deed.replaces : Deed → Bool
  | .retain => false
  | .replace _ => true

def Deed.onStored (d : Deed) (e : Stored) : Stored :=
  match d with
  | .retain => e
  | .replace a => { e with bytes := a.bytes, replaced := true }

theorem stock_slots : Slots inMemory Stored.name Deed.onStored where
  handOut _ _ := rfl
  retain x l := by
    have same : Deed.onStored .retain = id := rfl
    rw [same, List.modify_id]
    rfl
  replace there a := by
    change Stock.replace _ a _ = _
    rw [Stock.replace, if_pos there]
    rfl
  close _ := rfl
  lasting := rfl
  named d _ := by cases d <;> rfl

def Deed.disposition : Deed → Disposition
  | .retain => .retained
  | .replace a => .replaced a

def Deed.onEntry (d : Deed) (e : LedgerEntry) : LedgerEntry :=
  { e with disposition := d.disposition }

theorem ledger_slots : Slots inArchive LedgerEntry.name Deed.onEntry where
  handOut _ _ := rfl
  retain _ _ := rfl
  replace _ _ := rfl
  close _ := rfl
  lasting := rfl
  named _ _ := rfl

def namesWhere (dealt : Option Deed → Bool) (deed? : Nat → Option Deed) (names : List String) :
    List String := (names.zipIdx.filter fun x => dealt (deed? x.2)).map (·.1)

end ClassForge.Source

namespace ClassForge
open Source

namespace Ledger

def untouched (l : Ledger) : List String := (l.filter (·.disposition == .pending)).map (·.name)

/-- The lists of names share out the entries, each in the order of the ledger. -/
structure Shared (l : Ledger) : Prop where
  parted : (l.retained ++ l.replaced ++ l.untouched).Perm l.names
  retained : l.retained.Sublist l.names
  replaced : l.replaced.Sublist l.names
  untouched : l.untouched.Sublist l.names

theorem shared (l : Ledger) : Shared l where
  parted := by
    induction l with
    | nil => exact .refl _
    | cons e l ih =>
      simp only [Ledger.retained, Ledger.replaced, Ledger.untouched, names, List.map_cons,
        List.filter_cons] at ih ⊢
      cases e.disposition with
      | pending => exact List.perm_middle.trans (ih.cons e.name)
      | retained => exact ih.cons e.name
      | replaced a => exact (List.perm_middle.append_right _).trans (ih.cons e.name)
  retained := List.filter_sublist.map _
  replaced := List.filter_sublist.map _
  untouched := List.filter_sublist.map _

section
variable (deed? : Nat → Option Deed) (files : List (String × Bytes))

theorem afterDeeds_eq : afterDeeds Deed.onEntry deed? (ofFiles files) =
    files.zipIdx.map fun x => ⟨x.1.1, x.1.2, (deed? x.2).elim .pending Deed.disposition⟩ := by
  refine List.ext_getElem? fun i => ?_
  rw [getElem?_afterDeeds, ofFiles, List.getElem?_map, List.getElem?_map, List.getElem?_zipIdx,
    Option.map_map, Option.map_map]
  congr 1
  funext f
  rw [Function.comp_apply, Function.comp_apply, Nat.zero_add]
  cases deed? i <;> rfl

theorem initial_afterDeeds :
    (afterDeeds Deed.onEntry deed? (ofFiles files)).map (fun e => (e.name, e.initial)) = files := by
  rw [afterDeeds_eq, List.map_map]
  exact List.zipIdx_map_fst 0 files

theorem listed_afterDeeds {chosen : LedgerEntry → Bool} {dealt : Option Deed → Bool}
    (tells : ∀ name initial deed,
      chosen ⟨name, initial, deed.elim .pending Deed.disposition⟩ = dealt deed) :
    ((afterDeeds Deed.onEntry deed? (ofFiles files)).filter chosen).map (·.name) =
      namesWhere dealt deed? (files.map (·.1)) := by
  rw [afterDeeds_eq, List.filter_map, List.map_map, namesWhere, List.zipIdx_map, List.filter_map,
    List.map_map]
  simp only [Function.comp_def, tells]
  rfl

end

/-- The lists of a ledger tell how the element of each entry was dealt with. -/
structure Tells (l : Ledger) (names : List String) (deed? : Nat → Option Deed) : Prop where
  retained : l.retained = namesWhere (· == some .retain) deed? names
  replaced : l.replaced = namesWhere (·.any Deed.replaces) deed? names
  untouched : l.untouched = namesWhere (·.isNone) deed? names

theorem tells (deed? : Nat → Option Deed) (files : List (String × Bytes)) :
    Tells (afterDeeds Deed.onEntry deed? (ofFiles files)) (files.map (·.1)) deed? := by
  constructor
  all_goals
    refine listed_afterDeeds deed? files fun _ _ deed => ?_
    rcases deed with _ | (_ | _) <;> rfl

end Ledger

namespace Source

/-- Elements of entries in memory or in an archive write their own entries, in whatever order they
are used, and the lists of a ledger share out the entries by what was done with their elements. -/
theorem elements_write_own_entries (pairs : List (String × Bytes)) :
    WritesOwn (ofStock (Stock.ofPairs pairs)) Stored.name Deed.onStored (Stock.ofPairs pairs) ∧
    WritesOwn (ofLedger (Ledger.ofFiles pairs)) LedgerEntry.name Deed.onEntry
      (Ledger.ofFiles pairs) ∧
    ∀ s, Session.Reached (ofLedger (Ledger.ofFiles pairs)) s →
      s.source.store.map (fun e => (e.name, e.initial)) = pairs ∧
      Ledger.Shared s.source.store ∧
      Ledger.Tells s.source.store (pairs.map (·.1)) s.deed? := by
  have archive : WritesOwn (ofLedger (Ledger.ofFiles pairs)) LedgerEntry.name Deed.onEntry
      (Ledger.ofFiles pairs) := writesOwn ledger_slots rfl rfl rfl
  refine ⟨writesOwn stock_slots rfl rfl rfl, archive, fun s reached => ?_⟩
  rw [archive.told s reached]
  exact ⟨Ledger.initial_afterDeeds s.deed? pairs, Ledger.shared _, Ledger.tells s.deed? pairs⟩

/-- Of three entries, two of them with the same name, the second is replaced before the first is
retained, and the third is handed out in between. -/
theorem elements_write_own_entries_rehearsed :
    let pairs : List (String × Bytes) := [("stage/Play", [1]), ("stage/Play", [2]), ("cast", [3])]
    let a := Artifact.ofBytes ⟨"stage.Play"⟩ [4]
    ∃ s, Session.Reached (ofLedger (Ledger.ofFiles pairs)) s ∧
      s.source.store = [⟨"stage/Play", [1], .retained⟩, ⟨"stage/Play", [2], .replaced a⟩,
        ⟨"cast", [3], .pending⟩] ∧
      s.source.store.retained = ["stage/Play"] ∧ s.source.store.replaced = ["stage/Play"] ∧
      s.source.store.untouched = ["cast"] := by
  intro pairs a
  let start : Session Ledger Place := ⟨ofLedger (Ledger.ofFiles pairs), []⟩
  let replaced := start.next.next.use 1 ⟨1, "stage/Play"⟩ (.replace a)
  let ended := replaced.next.use 0 ⟨0, "stage/Play"⟩ .retain
  have reached : Session.Reached (ofLedger (Ledger.ofFiles pairs)) ended :=
    ((((Relation.ReflTransGen.refl.tail (.next start)).tail (.next _)).tail
      (.use rfl (.replace a))).tail (.next replaced)).tail (.use rfl .retain)
  obtain ⟨-, archive, lists⟩ := elements_write_own_entries pairs
  obtain ⟨-, -, told⟩ := lists ended reached
  have handed : ended.handed = [(⟨0, "stage/Play"⟩, some .retain),
      (⟨1, "stage/Play"⟩, some (.replace a)), (⟨2, "cast"⟩, none)] := rfl
  have deeds : ended.deed? = fun i => ([some .retain, some (.replace a), none])[i]?.join := by
    funext i
    rw [Session.deed?, handed]
    match i with
    | 0 | 1 | 2 | _ + 3 => rfl
  rw [deeds] at told
  exact ⟨ended, reached, archive.told ended reached, told.retained, told.replaced, told.untouched⟩

end Source

end ClassForge
