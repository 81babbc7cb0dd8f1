import ClassForge.Proofs.MergedLayers
import ClassForge.Settings.Diagnostic

/-!
Settings of several layers. Where the sections of every layer are tables, each single setting is
read from the last layer that gives it: sections are merged key by key, and a list takes the place
of the whole list before it.
-/
namespace ClassForge.Settings
open Value

/-- The settings that are not made of others. -/
inductive Leaf where
  | formatVersion
  | entryPoint
  | failFast
  | notifyOnAbort
  | failOnLiveInitializer
  | level
  | skipPrefixes
  | plugins
  deriving DecidableEq, Repr

namespace Leaf

def path : Leaf → List String
  | formatVersion => ["engine", "class_file_version"]
  | entryPoint => ["engine", "entry_point"]
  | failFast => ["engine", "fail_fast"]
  | notifyOnAbort => ["engine", "notify_on_abort"]
  | failOnLiveInitializer => ["engine", "fail_on_live_initializer"]
  | level => ["logging", "level"]
  | skipPrefixes => ["source", "skip_prefixes"]
  | plugins => ["plugins"]

/-- The settings have for the leaf what the value, its keys sorted, is read as. -/
def Reads (s : Settings) (v : Value) : Leaf → Prop
  | formatVersion => Decode.string v.sorted = .ok s.engine.formatVersion
  | entryPoint => Decode.entryPoint v.sorted = .ok s.engine.entryPoint
  | failFast => Decode.boolean v.sorted = .ok s.engine.failFast
  | notifyOnAbort => Decode.boolean v.sorted = .ok s.engine.notifyOnAbort
  | failOnLiveInitializer => Decode.boolean v.sorted = .ok s.engine.failOnLiveInitializer
  | level => Decode.string v.sorted = .ok s.logging.level
  | skipPrefixes => Decode.sequence Decode.string v.sorted = .ok s.source.skipPrefixes
  | plugins => Decode.sequence Decode.plugin v.sorted = .ok s.plugins

end Leaf

def Sectioned (entries : Entries) : Prop :=
  ∀ name ∈ ["engine", "logging", "source"], (lookup name entries).all isTable

instance (entries : Entries) : Decidable (Sectioned entries) :=
  inferInstanceAs (Decidable (∀ name ∈ ["engine", "logging", "source"], _))

def Input.Sectioned (input : Input) : Prop :=
  match input.layer with
  | .ok layer => Settings.Sectioned layer.entries
  | .error _ => True

instance (input : Input) : Decidable input.Sectioned :=
  match read : input.layer with
  | .ok layer => decidable_of_iff (Settings.Sectioned layer.entries) (by simp [Input.Sectioned, read])
  | .error _ => .isTrue (by simp [Input.Sectioned, read])

/-- Each leaf is read from the value that the last layer with one gives it, which is what the merged
table has there. -/
def LastGiven (layers : List Entries) (s : Settings) : Prop :=
  ∀ leaf : Leaf, ∃ v, lastGiven? leaf.path layers = some v ∧
    (Value.table (layers.foldl mergeEntries [])).at? leaf.path = some v ∧ leaf.Reads s v

variable {s : Settings}

theorem Leaf.Reads.plain {leaf : Leaf} {v : Value} (read : leaf.Reads s v) : v.isTable = false := by
  cases v with
  | table entries =>
    cases leaf with
    -- only here a table is looked into before it is refused
    | entryPoint => exact absurd read Decode.entryPoint_table
    | _ => cases read
  | _ => rfl

theorem Sectioned.clear {entries : Entries} (sections : Sectioned entries) (leaf : Leaf) :
    Clear leaf.path entries := by
  have below {name key : String} (listed : name ∈ ["engine", "logging", "source"]) :
      Clear [name, key] entries := fun v found => by
    have table := sections name listed
    rw [found, Option.all_some] at table
    cases v with
    | table inner => exact ⟨inner, rfl, trivial⟩
    | _ => cases table
  cases leaf with
  | plugins => trivial
  | _ => exact below (by decide)

theorem at_section {name key : String} {entries : Entries} {v : Value}
    (keyed : (Value.table entries).Keyed) (clear : Clear [name, key] entries)
    (found : (Value.table entries).at? [name, key] = some v) :
    ∃ inner, lookup name (sortedEntries entries) = some (.table inner) ∧
      (inner.map (·.1)).Nodup ∧ lookup key inner = some v.sorted := by
  rw [at_cons] at found
  obtain ⟨w, there, found⟩ := Option.bind_eq_some_iff.mp found
  obtain ⟨inner, rfl, -⟩ := clear w there
  rw [at_singleton] at found
  have distinct := (keyed.lookup there).distinct
  refine ⟨sortedEntries inner, ?_, sortedEntries_distinct distinct, ?_⟩
  · rw [lookup_sortedEntries name keyed.distinct, there]
    rfl
  · rw [lookup_sortedEntries key distinct, found]
    rfl

theorem leaf_read {entries : Entries} (keyed : (Value.table entries).Keyed)
    (done : Decode.settings (sortedEntries entries) = .ok s) (leaf : Leaf)
    (clear : Clear leaf.path entries) {v : Value}
    (found : (Value.table entries).at? leaf.path = some v) : leaf.Reads s v := by
  have whole := Decode.settings_read (sortedEntries_distinct keyed.distinct) done
  -- the settings of a run share the way into their section
  have engine {key : String} (clear : Clear ["engine", key] entries)
      (found : (Value.table entries).at? ["engine", key] = some v) :
      ∃ inner, lookup key inner = some v.sorted ∧ Decode.EngineRead inner s.engine := by
    obtain ⟨inner, there, distinct, given⟩ := at_section keyed clear found
    exact ⟨inner, given, Decode.engine_read distinct (whole.engine _ there)⟩
  cases leaf with
  | formatVersion =>
    obtain ⟨inner, given, read⟩ := engine clear found
    exact read.formatVersion _ given
  | entryPoint =>
    obtain ⟨inner, given, read⟩ := engine clear found
    exact read.entryPoint _ given
  | failFast =>
    obtain ⟨inner, given, read⟩ := engine clear found
    exact read.failFast _ given
  | notifyOnAbort =>
    obtain ⟨inner, given, read⟩ := engine clear found
    exact read.notifyOnAbort _ given
  | failOnLiveInitializer =>
    obtain ⟨inner, given, read⟩ := engine clear found
    exact read.failOnLiveInitializer _ given
  | level =>
    obtain ⟨inner, there, distinct, given⟩ := at_section keyed clear found
    exact Decode.logging_read distinct (whole.logging _ there) given
  | skipPrefixes =>
    obtain ⟨inner, there, distinct, given⟩ := at_section keyed clear found
    exact Decode.source_read distinct (whole.source _ there) given
  | plugins =>
    refine whole.plugins _ ?_
    rw [lookup_sortedEntries "plugins" keyed.distinct, ← at_singleton]
    exact congrArg (Option.map Value.sorted) found

theorem Leaf.path_ne_nil (leaf : Leaf) : leaf.path ≠ [] := by
  cases leaf <;> exact List.cons_ne_nil _ _

theorem builtIn_gives (leaf : Leaf) : ((Value.table builtIn.entries).at? leaf.path).isSome := by
  cases leaf <;> rfl

theorem given_behind_builtIn (leaf : Leaf) (tables : List Entries) :
    (lastGiven? leaf.path (builtIn.entries :: tables)).isSome := by
  rw [← List.singleton_append, lastGiven_append, lastGiven_singleton, Option.isSome_or,
    builtIn_gives, Bool.or_true]

/-- A table in which keys stand once and sections are tables. -/
structure Sound (entries : Entries) : Prop where
  keyed : (Value.table entries).Keyed
  sections : Sectioned entries

theorem builtIn_sound : Sound builtIn.entries := ⟨builtIn_keyed, by decide⟩

section
variable {tables : List Entries} (sound : ∀ entries ∈ tables, Sound entries)
include sound

theorem keyed_of_sound : ∀ entries ∈ tables, (Value.table entries).Keyed :=
  fun entries among => (sound entries among).keyed

theorem clear_of_sound (leaf : Leaf) : ∀ entries ∈ tables, Clear leaf.path entries :=
  fun entries among => (sound entries among).sections.clear leaf

theorem last_given (done : Decode.settings (sortedEntries (tables.foldl mergeEntries [])) = .ok s)
    (total : ∀ leaf : Leaf, (lastGiven? leaf.path tables).isSome) : LastGiven tables s := by
  intro leaf
  have keyed := keyed_of_sound sound
  have clear := clear_of_sound sound leaf
  have there := total leaf
  rw [← at_merged_isSome leaf.path_ne_nil keyed clear] at there
  obtain ⟨v, found⟩ := Option.isSome_iff_exists.mp there
  -- that it is read shows that it is no table, so nothing before it was merged into it
  have read : leaf.Reads s v :=
    leaf_read (.merged .nil keyed) done leaf (.merged keyed (.nothing _) clear) found
  exact ⟨v, (at_merged_plain_iff leaf.path_ne_nil keyed clear read.plain).mp found, found, read⟩

theorem LastGiven.regrouped {earlier : List Entries} (front : ∀ entries ∈ earlier, Sound entries)
    (given : LastGiven (earlier ++ [tables.foldl mergeEntries []]) s) :
    LastGiven (earlier ++ tables) s := by
  have all := List.forall_mem_append.mpr ⟨front, sound⟩
  intro leaf
  obtain ⟨v, last, -, read⟩ := given leaf
  have spread := lastGiven_regrouped leaf.path_ne_nil (keyed_of_sound sound)
    (clear_of_sound sound leaf) earlier read.plain last
  exact ⟨v, spread, (at_merged_plain_iff leaf.path_ne_nil (keyed_of_sound all)
    (clear_of_sound all leaf) read.plain).mpr spread, read⟩

end

theorem ReadAs.sound {inputs : List Input} {layers : List Layer} (read : ReadAs inputs layers)
    (sections : ∀ input ∈ inputs, input.Sectioned) : ∀ layer ∈ layers, Sound layer.entries := by
  intro layer among
  obtain ⟨input, listed, given⟩ := read.input among
  have here := sections input listed
  rw [Input.Sectioned, given] at here
  exact ⟨read.keyed layer among, here⟩

/-- Settings of layers whose sections are tables: the last layer with a leaf gives it its value. -/
theorem load_last_given {inputs : List Input} (sections : ∀ input ∈ inputs, input.Sectioned)
    (loaded : load inputs = .ok s) :
    ∃ layers, ReadAs inputs layers ∧ (∀ layer ∈ layers, Sound layer.entries) ∧
      LastGiven (builtIn.entries :: layers.map Layer.entries) s := by
  obtain ⟨layers, read, done⟩ := load_succeeds loaded
  have sound := read.sound sections
  refine ⟨layers, read, sound, ?_⟩
  rw [merged_eq] at done
  exact last_given (List.forall_mem_cons.mpr ⟨builtIn_sound, List.forall_mem_map.mpr sound⟩) done
    fun leaf => given_behind_builtIn leaf _

/-- Settings of the files and the environment: each is read from what the last layer gives it, and,
where every variable gives its sections as tables, from what the last variable gives it. -/
theorem hierarchy_last_given {workingDirectory userFile : String} {user localFile : Option FileText}
    {env : List (String × String)} {s : Settings}
    (sections : ∀ input ∈ hierarchy workingDirectory userFile user localFile env, input.Sectioned)
    (loaded : load (hierarchy workingDirectory userFile user localFile env) = .ok s) :
    ∃ own here : Layer, (Input.file userFile user).layer = .ok own ∧
      (Input.file (absolute workingDirectory localPath) localFile).layer = .ok here ∧
      LastGiven [builtIn.entries, own.entries, here.entries, Environment.entries env] s ∧
      ((∀ entries ∈ env.filterMap Environment.given?, Sectioned entries) →
        LastGiven ([builtIn.entries, own.entries, here.entries] ++
          env.filterMap Environment.given?) s) := by
  obtain ⟨layers, read, sound, given⟩ := load_last_given sections loaded
  obtain ⟨own, rest, rfl, ownRead, read⟩ := List.map_eq_cons_iff.mp read.symm
  obtain ⟨here, rest, rfl, hereRead, read⟩ := List.map_eq_cons_iff.mp read
  obtain ⟨last, rest, rfl, envRead, read⟩ := List.map_eq_cons_iff.mp read
  obtain rfl := List.map_eq_nil_iff.mp read
  obtain rfl := Except.ok.inj envRead
  refine ⟨own, here, ownRead.symm, hereRead.symm, given, fun apart => ?_⟩
  refine LastGiven.regrouped (fun entries among => ?_) (fun entries among => ?_) given
  · exact ⟨Environment.tables_keyed env entries among, apart entries among⟩
  · simp only [List.mem_cons, List.not_mem_nil, or_false] at among
    rcases among with rfl | rfl | rfl
    · exact builtIn_sound
    · exact sound own (by simp)
    · exact sound here (by simp)

/-- The user's skipped beginnings are replaced as a whole, the rest of the sections is merged. -/
theorem hierarchy_last_given_overlapping :
    let user := "[engine]\nfail_fast = true\nentry_point = \"redefine\"\n" ++
      "[source]\nskip_prefixes = [\"a/\", \"b/\"]"
    let here := "[engine]\nclass_file_version = \"11\"\n[source]\nskip_prefixes = [\"c/\"]"
    let env := [("SMELT_ENGINE_ENTRY_POINT", "decorate"), ("smelt_logging_level", "debug")]
    let inputs := hierarchy "/w" "/u/smelt.toml" (some (.text user)) (some (.text here)) env
    (∀ input ∈ inputs, input.Sectioned) ∧
      (∀ entries ∈ env.filterMap Environment.given?, Sectioned entries) ∧
      ∃ s, load inputs = .ok s ∧
        (s.engine, s.logging.level, s.source.skipPrefixes) =
          ({ formatVersion := "11", entryPoint := .decorate, failFast := true }, "debug", ["c/"]) ∧
        ∃ first second : Layer,
          LastGiven [builtIn.entries, first.entries, second.entries, Environment.entries env] s ∧
          LastGiven ([builtIn.entries, first.entries, second.entries] ++
            env.filterMap Environment.given?) s := by
  intro user here env inputs
  have sections : ∀ input ∈ inputs, input.Sectioned := by decide +kernel
  have apart : ∀ entries ∈ env.filterMap Environment.given?, Sectioned entries := by decide +kernel
  have read : (load inputs).toOption.map
      (fun s => (s.engine, s.logging.level, s.source.skipPrefixes)) =
        some ({ formatVersion := "11", entryPoint := .decorate, failFast := true }, "debug", ["c/"]) := by
    decide +kernel
  obtain ⟨s, found, same⟩ := Option.map_eq_some_iff.mp read
  have loaded := toOption_succeeds found
  obtain ⟨first, second, -, -, given, spread⟩ := hierarchy_last_given sections loaded
  exact ⟨sections, apart, s, loaded, same, first, second, given, spread apart⟩

end ClassForge.Settings
