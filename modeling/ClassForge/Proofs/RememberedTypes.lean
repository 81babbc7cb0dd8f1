import ClassForge.TypePool
import Mathlib.Data.Finset.Card
import Mathlib.Data.Finset.Dedup
import Mathlib.Data.List.Induction

/-!
Pools that remember their answers. What such a pool keeps is told by the names that were looked up:
each of them once, with its answer, and the inner pool in the state that it has got into by looking
up each of them once.
-/
namespace ClassForge.TypePool
variable {ρ : Type} {inner : TypePool ρ} {f : String → Option TypeName} {name : String}

/-- The answers go by the name alone, whatever the pool keeps. -/
def AnswersBy (pool : TypePool ρ) (f : String → Option TypeName) : Prop :=
  ∀ name r, (pool.describe name r).1.type? = f name

theorem ofFunction_answersBy (f : String → Option TypeName) : (ofFunction f).AnswersBy f :=
  fun _ _ => rfl

theorem cached_hit {state : ρ × Cache} {answer : Option TypeName}
    (known : state.2.lookup name = some answer) :
    (cached inner).describe name state = (⟨answer, false⟩, state) := by
  simp only [cached, known]

theorem cached_miss {state : ρ × Cache} (new : state.2.lookup name = none) :
    (cached inner).describe name state =
      (⟨(inner.describe name state.1).1.type?, true⟩, (inner.describe name state.1).2,
        (name, (inner.describe name state.1).1.type?) :: state.2) := by
  simp only [cached, new]

def Remembers (f : String → Option TypeName) (cache : Cache) : Prop :=
  ∀ name answer, (name, answer) ∈ cache → answer = f name

theorem cached_describe (byName : inner.AnswersBy f) {cache : Cache}
    (remembers : Remembers f cache) (r : ρ) (name : String) :
    ∃ consulted r' cache', (cached inner).describe name (r, cache) =
      (⟨f name, consulted⟩, (r', cache')) ∧ Remembers f cache' := by
  cases found : cache.lookup name with
  | some answer =>
    obtain ⟨before, after, split, _⟩ := List.lookup_eq_some_iff.mp found
    have same : answer = f name := remembers name answer (by rw [split]; simp)
    exact ⟨false, r, cache, by rw [cached_hit found, same], remembers⟩
  | none =>
    refine ⟨true, _, _, by rw [cached_miss found, byName], ?_⟩
    intro other answer member
    rcases List.mem_cons.mp member with same | older
    · obtain ⟨rfl, rfl⟩ := Prod.mk.inj same
      rfl
    · exact remembers other answer older

def afterLookups (pool : TypePool ρ) (names : List String) (r : ρ) : ρ :=
  names.foldl (fun r name => (pool.describe name r).2) r

theorem afterLookups_concat (pool : TypePool ρ) (names : List String) (name : String) (r : ρ) :
    pool.afterLookups (names ++ [name]) r =
      (pool.describe name (pool.afterLookups names r)).2 := by
  rw [afterLookups, List.foldl_concat]
  rfl

def remembered (f : String → Option TypeName) (names : List String) : Cache :=
  names.reverse.map fun name => (name, f name)

theorem remembered_concat (f : String → Option TypeName) (names : List String) (name : String) :
    remembered f (names ++ [name]) = (name, f name) :: remembered f names := by
  simp [remembered]

theorem lookup_remembered (f : String → Option TypeName) (names : List String) (name : String) :
    (remembered f names).lookup name = if name ∈ names then some (f name) else none := by
  induction names using List.reverseRecOn with
  | nil => rfl
  | append_singleton names last ih =>
    rw [remembered_concat, List.lookup_cons]
    by_cases same : name = last
    · simp [same]
    · simp [same, beq_false_of_ne same, ih]

theorem lookup_remembered_eraseDups (f : String → Option TypeName) (names : List String)
    (name : String) : (remembered f names.eraseDups).lookup name =
      if name ∈ names then some (f name) else none := by
  simpa only [List.mem_eraseDups] using lookup_remembered f names.eraseDups name

theorem afterLookups_cached (byName : inner.AnswersBy f) (r : ρ) (names : List String) :
    (cached inner).afterLookups names (r, []) =
      (inner.afterLookups names.eraseDups r, remembered f names.eraseDups) := by
  induction names using List.reverseRecOn with
  | nil => rfl
  | append_singleton names name ih =>
    have found := lookup_remembered_eraseDups f names name
    rw [afterLookups_concat, ih, eraseDups_concat]
    by_cases known : name ∈ names
    · rw [if_pos known] at found
      rw [if_pos known, cached_hit found]
    · rw [if_neg known] at found
      rw [if_neg known, cached_miss found, byName, afterLookups_concat, remembered_concat]

theorem afterLookups_remembers (byName : inner.AnswersBy f) (r : ρ) (names : List String) :
    Remembers f ((cached inner).afterLookups names (r, [])).2 := by
  rw [afterLookups_cached byName]
  intro name answer member
  obtain ⟨_, -, same⟩ := List.mem_map.mp member
  obtain ⟨rfl, rfl⟩ := Prod.mk.inj same
  rfl

/-- How a name is looked up behind others. The inner pool is in the state `r` at first. -/
structure Memoizes (inner : TypePool ρ) (r : ρ) (before : List String) (name : String) : Prop where
  answer : ∀ r', ((cached inner).describe name
    ((cached inner).afterLookups before (r, []))).1.type? = (inner.describe name r').1.type?
  consulted : ((cached inner).describe name
    ((cached inner).afterLookups before (r, []))).1.consulted = true ↔ name ∉ before
  /-- The inner pool has been asked for each name once, as they first occur. -/
  asked : ((cached inner).afterLookups (before ++ [name]) (r, [])).1 =
    inner.afterLookups (before ++ [name]).eraseDups r
  size : ((cached inner).afterLookups (before ++ [name]) (r, [])).2.length =
    (before ++ [name]).toFinset.card

theorem nodup_eraseDups (names : List String) : names.eraseDups.Nodup := by
  induction names using List.reverseRecOn with
  | nil => exact List.nodup_nil
  | append_singleton names last ih =>
    rw [eraseDups_concat]
    by_cases known : last ∈ names
    · rwa [if_pos known]
    · rw [if_neg known, ← List.concat_eq_append]
      exact ih.concat (List.mem_eraseDups.not.mpr known)

theorem length_eraseDups (names : List String) : names.eraseDups.length = names.toFinset.card := by
  have same : names.eraseDups.toFinset = names.toFinset := by
    ext name
    rw [List.mem_toFinset, List.mem_toFinset, List.mem_eraseDups]
  rw [← same, List.toFinset_card_of_nodup (nodup_eraseDups names)]

theorem cached_memoizes (byName : inner.AnswersBy f) (r : ρ) (before : List String)
    (name : String) : Memoizes inner r before name := by
  let state : ρ × Cache := (inner.afterLookups before.eraseDups r, remembered f before.eraseDups)
  have behind : (cached inner).afterLookups before (r, []) = state := afterLookups_cached byName ..
  have found : state.2.lookup name = if name ∈ before then some (f name) else none :=
    lookup_remembered_eraseDups f before name
  constructor
  case answer =>
    intro r'
    rw [behind, byName]
    by_cases known : name ∈ before
    · rw [cached_hit (found.trans (if_pos known))]
    · rw [cached_miss (found.trans (if_neg known)), byName]
  case consulted =>
    rw [behind]
    by_cases known : name ∈ before
    · simp [cached_hit (found.trans (if_pos known)), known]
    · simp [cached_miss (found.trans (if_neg known)), known]
  case asked => rw [afterLookups_cached byName]
  case size =>
    rw [afterLookups_cached byName, remembered, List.length_map, List.length_reverse,
      length_eraseDups]

end ClassForge.TypePool
