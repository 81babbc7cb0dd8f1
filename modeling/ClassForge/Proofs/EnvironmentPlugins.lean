import ClassForge.Proofs.LayeredSettings

/-!
Plugins and the environment. Variables are kept from the plugins by their names, before these are
trimmed for the second time; one way around it is left, a name with blanks between the mark and the
name of the plugins. Of the environment the declared plugins depend on such variables only.
-/
namespace ClassForge.Settings
open Value

/-- Behind the mark stand blanks, and behind them the name of the plugins. -/
def blanksBeforePlugins (name : String) : Bool :=
  match Environment.behindMark? name with
  | some rest =>
    !"plugins".toList.isPrefixOf rest && "plugins".toList.isPrefixOf (Text.trimLeft rest)
  | none => false

def declared? (variable_ : String × String) : Option Value :=
  if blanksBeforePlugins variable_.1 then (Environment.given? variable_).bind (lookup "plugins")
  else none

theorem blanks_of_path {name : String} {path : List String}
    (declared : Environment.path? name = some ("plugins" :: path)) :
    blanksBeforePlugins name = true := by
  obtain ⟨rest, behind, starts, apart⟩ := Environment.path_head_plugins declared
  have late : "plugins".toList.isPrefixOf rest = false :=
    Bool.eq_false_iff.mpr fun early => apart (List.isPrefixOf_iff_prefix.mp early)
  rw [blanksBeforePlugins, behind]
  dsimp only
  rw [late, List.isPrefixOf_iff_prefix.mpr starts]
  rfl

/-- A variable has plugins among its settings in no other way. -/
theorem given_plugins (variable_ : String × String) :
    (Environment.given? variable_).bind (lookup "plugins") = declared? variable_ := by
  unfold declared?
  split
  · rfl
  · rename_i named
    unfold Environment.given?
    split
    · rename_i key path given
      have other : key ≠ "plugins" := by
        intro same
        subst same
        exact named (blanks_of_path given)
      rw [Option.bind_some, lookup_cons, if_neg other]
      rfl
    · rfl

def declaredAll? (env : List (String × String)) : Option Value :=
  (env.filterMap declared?).foldl (fun old v => overlay old (some v)) none

theorem environment_plugins (env : List (String × String)) :
    lookup "plugins" (Environment.entries env) = declaredAll? env := by
  have each : (env.filterMap Environment.given?).filterMap (lookup "plugins") =
      env.filterMap declared? := by
    rw [List.filterMap_filterMap, funext given_plugins]
  rw [Environment.entries, lookup_merged _ (Environment.tables_keyed env), overlays_reduced,
    List.filterMap_map, Function.id_comp, each, declaredAll?]

theorem environment_last {inputs : List Input} {env : List (String × String)} {layers : List Layer}
    (read : ReadAs (inputs ++ [.environment env]) layers) :
    ∃ files last, ReadAs inputs files ∧ layers = files ++ [last] ∧
      last.entries = Environment.entries env := by
  rw [ReadAs, List.map_append] at read
  obtain ⟨files, rest, rfl, front, back⟩ := List.map_eq_append_iff.mp read.symm
  obtain ⟨last, none_, rfl, given, nothing⟩ := List.map_eq_cons_iff.mp back
  obtain rfl := List.map_eq_nil_iff.mp nothing
  obtain rfl := Except.ok.inj given
  exact ⟨files, _, front.symm, rfl, rfl⟩

/-- The plugins of settings are read from those of the files, with what variables declare merged
into them. -/
theorem plugins_read {inputs : List Input} {env : List (String × String)} {s : Settings}
    (loaded : load (inputs ++ [.environment env]) = .ok s) :
    ∃ files, ReadAs inputs files ∧
      ∃ v, overlay (lookup "plugins" (merged (builtIn :: files))) (declaredAll? env) = some v ∧
        Decode.sequence Decode.plugin v.sorted = .ok s.plugins := by
  obtain ⟨layers, read, done⟩ := load_succeeds loaded
  obtain ⟨files, last, front, rfl, given⟩ := environment_last read
  have keyed : ∀ entries ∈ (builtIn :: (files ++ [last])).map Layer.entries,
      (Value.table entries).Keyed :=
    List.forall_mem_map.mpr (List.forall_mem_cons.mpr ⟨builtIn_keyed, read.keyed⟩)
  have there := given_behind_builtIn .plugins ((files ++ [last]).map Layer.entries)
  rw [← List.map_cons, ← at_merged_isSome Leaf.plugins.path_ne_nil keyed fun _ _ => trivial,
    ← merged_eq] at there
  obtain ⟨v, found⟩ := Option.isSome_iff_exists.mp there
  have whole : Leaf.plugins.Reads s v :=
    leaf_read (merged_eq _ ▸ .merged .nil keyed) done .plugins trivial found
  have split : merged (builtIn :: (files ++ [last])) =
      mergeEntries (merged (builtIn :: files)) (Environment.entries env) := by
    simp [merged, given]
  refine ⟨files, front, v, ?_, whole⟩
  rw [← environment_plugins, ← lookup_mergeEntries _ _ (Environment.entries_keyed env).distinct,
    ← split, ← at_singleton]
  exact found

/-- Whatever is read before the environment: two environments that declare the same plugins in this
way, or none, leave the same plugins. -/
theorem plugins_beside_environment {inputs : List Input} {env env' : List (String × String)}
    {s s' : Settings} (same : env.filterMap declared? = env'.filterMap declared?)
    (loaded : load (inputs ++ [.environment env]) = .ok s)
    (loaded' : load (inputs ++ [.environment env']) = .ok s') : s.plugins = s'.plugins := by
  obtain ⟨layers, read, v, found, done⟩ := plugins_read loaded
  obtain ⟨layers', read', v', found', done'⟩ := plugins_read loaded'
  obtain rfl := (List.map_inj_right fun _ _ => Except.ok.inj).mp (read.symm.trans read')
  rw [declaredAll?, same] at found
  obtain rfl := Option.some.inj (found.symm.trans found')
  exact Except.ok.inj (done.symm.trans done')

theorem plugins_beside_environment_tracer :
    let files := [Input.file "/w/smelt.toml" (some (.text "[[plugins]]\nname = \"tracer\""))]
    let env := [("SMELT_PLUGINS", "[]"), ("SMELT_LOGGING_LEVEL", "debug")]
    env.filterMap declared? = [] ∧ ∃ s s', load (files ++ [.environment env]) = .ok s ∧
      load (files ++ [.environment []]) = .ok s' ∧ s.plugins.map (·.name) = ["tracer"] ∧
        s.plugins = s'.plugins := by
  intro files env
  have silent : ∀ variable_ ∈ env, (declared? variable_).isNone := by decide +kernel
  have same : env.filterMap declared? = [] := List.filterMap_eq_nil_iff.mpr fun variable_ among =>
    Option.isNone_iff_eq_none.mp (silent variable_ among)
  have read : (load (files ++ [.environment env])).toOption.map (fun s => s.plugins.map (·.name)) =
      some ["tracer"] := by decide +kernel
  have bare : (load (files ++ [.environment []])).toOption.isSome := by decide +kernel
  obtain ⟨s, found, named⟩ := Option.map_eq_some_iff.mp read
  obtain ⟨s', found'⟩ := Option.isSome_iff_exists.mp bare
  have loaded := toOption_succeeds found
  have loaded' := toOption_succeeds found'
  exact ⟨same, s, s', loaded, loaded', named, plugins_beside_environment same loaded loaded'⟩

/-- A name with a blank behind the mark declares a plugin, where no file does. -/
theorem environment_declares_plugin :
    ∃ s s', load [.file "/w/smelt.toml" none, .environment []] = .ok s ∧
      load [.file "/w/smelt.toml" none,
        .environment [("SMELT_ PLUGINS", "[\x7bname=evil\x7d]")]] = .ok s' ∧
      s.plugins ≠ s'.plugins := by
  have bare : (load [.file "/w/smelt.toml" none, .environment []]).toOption.map
      (fun s => s.plugins.map (·.name)) = some [] := by decide +kernel
  have blank : (load [.file "/w/smelt.toml" none,
      .environment [("SMELT_ PLUGINS", "[\x7bname=evil\x7d]")]]).toOption.map
        (fun s => s.plugins.map (·.name)) = some ["evil"] := by decide +kernel
  obtain ⟨s, found, none_⟩ := Option.map_eq_some_iff.mp bare
  obtain ⟨s', found', evil⟩ := Option.map_eq_some_iff.mp blank
  refine ⟨s, s', toOption_succeeds found, toOption_succeeds found', fun same => ?_⟩
  rw [same, evil] at none_
  cases none_

end ClassForge.Settings
