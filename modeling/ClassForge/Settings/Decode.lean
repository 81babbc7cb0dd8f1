import ClassForge.Settings.Model
import ClassForge.Succeeds
import ClassForge.Text.Quoted
import ClassForge.Value

/-!
From a value to settings. A record is read from a table or from a list of its fields in order, a
choice from its keyword or from a table with its keyword as the first key. The first fault that is
met stops the reading; it carries the path to where it stands.
-/
namespace ClassForge.Settings.Decode

inductive Problem where
  | unknownField (name : String) (known : List String)
  | unknownVariant (name : String) (known : List String)
  | missingField (name : String)
  | wrongType (actual expected : String)
  | wrongLength (length : Nat) (expected : String)
  deriving DecidableEq, Repr

structure Fault where
  path : List String
  problem : Problem
  deriving DecidableEq, Repr

def describe : Value → String
  | .text s => "string " ++ Text.Quoted.quote s
  | .character c => "string " ++ Text.Quoted.quote (String.singleton c)
  | .boolean b => if b then "bool true" else "bool false"
  | .integer n => s!"signed int \x60{n}\x60"
  | .natural n => s!"unsigned int \x60{n}\x60"
  | .real x => "float \x60" ++ x.render ++ "\x60"
  | .list _ => "sequence"
  | .date _ | .table _ => "map"

variable {α : Type}

def fail (problem : Problem) : Except Fault α := .error ⟨[], problem⟩

/-- A fault inside `key` has the key at the front of its path. -/
def under (key : String) (r : Except Fault α) : Except Fault α :=
  r.mapError fun f => { f with path := key :: f.path }

theorem under_succeeds {key : String} {r : Except Fault α} {a : α} (done : under key r = .ok a) :
    r = .ok a := mapError_eq_ok.mp done

def wrong (v : Value) (expected : String) : Except Fault α :=
  fail (.wrongType (describe v) expected)

def text (expected : String) : Value → Except Fault String
  | .text s => .ok s
  | .character c => .ok (String.singleton c)
  | v => wrong v expected

def string : Value → Except Fault String := text "a string"

def boolean : Value → Except Fault Bool
  | .boolean b => .ok b
  | v => wrong v "a boolean"

private def itemsFrom (f : Value → Except Fault α) : Nat → List Value → Except Fault (List α)
  | _, [] => .ok []
  | i, v :: vs => do
    let x ← under (Number.decimal i) (f v)
    return x :: (← itemsFrom f (i + 1) vs)

def sequence (f : Value → Except Fault α) : Value → Except Fault (List α)
  | .list items => itemsFrom f 0 items
  | v => wrong v "a sequence"

def fromEntries (known : List String) (set : α → String → Value → Except Fault α) :
    α → Value.Entries → Except Fault α
  | record, [] => .ok record
  | record, (key, v) :: rest => do
    if !known.contains key then under key (fail (.unknownField key known))
    else fromEntries known set (← under key (set record key v)) rest

section
variable {β : Type} {known : List String} {set : α → String → Value → Except Fault α}
  {key : String} {field : α → β} {entries : Value.Entries} {start final : α}

theorem fromEntries_absent
    (others : ∀ {r r' k v}, k ∈ known → k ≠ key → set r k v = .ok r' → field r' = field r)
    (done : fromEntries known set start entries = .ok final)
    (absent : Value.lookup key entries = none) : field final = field start := by
  induction entries generalizing start with
  | nil => exact Except.ok.inj done ▸ rfl
  | cons e rest ih =>
    obtain ⟨other, later⟩ := not_or.mp fun same =>
      Value.lookup_eq_none_iff.mp absent (List.mem_cons.mpr same)
    rw [fromEntries] at done
    split at done
    · cases under_succeeds done
    · rename_i listed
      obtain ⟨next, given, done⟩ := bind_succeeds done
      rw [ih done (Value.lookup_eq_none_iff.mpr later)]
      exact others (by simpa using listed) (Ne.symm other) (under_succeeds given)

theorem fromEntries_given {read : Value → Except Fault β}
    (own : ∀ {r r' v}, set r key v = .ok r' → read v = .ok (field r'))
    (others : ∀ {r r' k v}, k ∈ known → k ≠ key → set r k v = .ok r' → field r' = field r)
    (distinct : (entries.map (·.1)).Nodup)
    (done : fromEntries known set start entries = .ok final) {v : Value}
    (given : Value.lookup key entries = some v) : read v = .ok (field final) := by
  induction entries generalizing start with
  | nil => cases given
  | cons e rest ih =>
    obtain ⟨fresh, later⟩ := List.nodup_cons.mp distinct
    rw [fromEntries] at done
    split at done
    · cases under_succeeds done
    · obtain ⟨next, here, done⟩ := bind_succeeds done
      rw [Value.lookup_cons] at given
      split at given
      · rename_i same
        obtain rfl := Option.some.inj given
        rw [fromEntries_absent others done (Value.lookup_eq_none_iff.mpr (same ▸ fresh))]
        exact own (same ▸ under_succeeds here)
      · exact ih later done given

theorem fromEntries_eq_foldlM (start : α) (entries : Value.Entries) :
    fromEntries known set start entries = entries.foldlM (fun record e => under e.1
      (if known.contains e.1 then set record e.1 e.2 else fail (.unknownField e.1 known))) start := by
  induction entries generalizing start with
  | nil => rfl
  | cons e rest ih =>
    rw [fromEntries, List.foldlM_cons]
    by_cases listed : known.contains e.1
    · simp only [listed, Bool.not_true, Bool.false_eq_true, if_false, if_true, ih]
    · simp only [Bool.not_eq_true _ ▸ listed]
      rfl

/-- A key that is put in among others makes its own change and leaves what the others do. -/
theorem fromEntries_inserted {before after : Value.Entries} {v : Value} (change : α → α)
    (listed : known.contains key) (own : ∀ r, set r key v = .ok (change r))
    (others : ∀ {r r' k v}, k ≠ key → set r k v = .ok r' → set (change r) k v = .ok (change r'))
    (once : key ∉ after.map (·.1))
    (done : fromEntries known set start (before ++ after) = .ok final) :
    fromEntries known set start (before ++ (key, v) :: after) = .ok (change final) := by
  rw [fromEntries_eq_foldlM] at done ⊢
  refine foldlM_insert change (fun r => ?_) (fun e among r r' put => ?_) done
  · rw [if_pos listed, own]
    rfl
  · have other : e.1 ≠ key := fun same => once (same ▸ List.mem_map_of_mem among)
    have put := under_succeeds put
    split at put
    · rw [if_pos ‹_›, others other put]
      rfl
    · cases put

end

/-- The items of a list, each put into the field of its position; more items are left alone. -/
def fromItems (set : α → String → Value → Except Fault α) :
    α → Nat → List String → List Value → Except Fault α
  | record, i, key :: keys, v :: vs => do
    fromItems set (← under (Number.decimal i) (set record key v)) (i + 1) keys vs
  | record, _, _, _ => .ok record

def record (name : String) (known : List String) (set : α → String → Value → Except Fault α)
    (start : α) : Value → Except Fault α
  | .table entries => fromEntries known set start entries
  | .list items => fromItems set start 0 known items
  | v => wrong v ("struct " ++ name)

def entryPoint (v : Value) : Except Fault EntryPointKind :=
  let keywords := EntryPointKind.all.map EntryPointKind.keyword
  match v with
  | .text s =>
    match EntryPointKind.ofKeyword? s with
    | some kind => .ok kind
    | none => fail (.unknownVariant s keywords)
  | .table [] => wrong v "enum"
  | .table ((key, inner) :: _) =>
    under key (if keywords.contains key then wrong inner "unit"
      else fail (.unknownVariant key keywords))
  | _ => wrong v "enum EntryPointKind"

theorem entryPoint_table {entries : Value.Entries} {kind : EntryPointKind} :
    entryPoint (.table entries) ≠ .ok kind := by
  intro read
  cases entries with
  | nil => cases read
  | cons e rest =>
    have inside := under_succeeds read
    split at inside <;> cases inside

mutual

def selector : Value → Except Fault Declared
  | .text "any" => .ok .everything
  | .text "none" => .ok .nothing
  | .text s =>
    if Selector.keywords.contains s then fail (.wrongType "unit variant" "newtype variant")
    else fail (.unknownVariant s Selector.keywords)
  | .table [] => wrong (.table []) "enum"
  | .table ((key, v) :: _) =>
    under key (match key with
      | "any" | "none" => wrong v "unit"
      | "named" => (string v).map .named
      | "name_starts_with" => (string v).map .startsWith
      | "name_ends_with" => (string v).map .endsWith
      | "name_contains" => (string v).map .contains
      | "name_matches" => (string v).map .matching
      | "in_package" => (string v).map .inPackage
      | "and" => (selectors v).map .allOf
      | "or" => (selectors v).map .anyOf
      | "not" => (selector v).map .except
      | _ => fail (.unknownVariant key Selector.keywords))
  | v => wrong v "enum MatcherConfig"

def selectors : Value → Except Fault (List Declared)
  | .list items => selectorsFrom 0 items
  | v => wrong v "a sequence"

def selectorsFrom : Nat → List Value → Except Fault (List Declared)
  | _, [] => .ok []
  | i, v :: vs =>
    match under (Number.decimal i) (selector v) with
    | .error f => .error f
    | .ok s => (selectorsFrom (i + 1) vs).map (s :: ·)

end

def engineField (s : EngineSettings) (key : String) (v : Value) : Except Fault EngineSettings :=
  match key with
  | "class_file_version" => (string v).map ({ s with formatVersion := · })
  | "entry_point" => (entryPoint v).map ({ s with entryPoint := · })
  | "fail_fast" => (boolean v).map ({ s with failFast := · })
  | "notify_on_abort" => (boolean v).map ({ s with notifyOnAbort := · })
  | _ => (boolean v).map ({ s with failOnLiveInitializer := · })

def engine : Value → Except Fault EngineSettings :=
  record "EngineConfig" engineKeys engineField {}

def logging : Value → Except Fault LogSettings :=
  record "LoggingConfig" loggingKeys (fun s _ v => (string v).map ({ s with level := · })) {}

def source : Value → Except Fault SourceSettings :=
  record "SourceConfig" sourceKeys
    (fun s _ v => (sequence string v).map ({ s with skipPrefixes := · })) {}

private def fields : Value → Except Fault PluginDeclaration :=
  record "PluginDeclaration" pluginKeys (fun p key v => match key with
    | "name" => (string v).map ({ p with name := · })
    | "enabled" => (boolean v).map ({ p with enabled := · })
    | "description" => (string v).map fun s => { p with description := some s }
    | "matcher" => (selector v).map ({ p with selector := · })
    | "live_initializer" => (boolean v).map ({ p with live := · })
    | _ => (text "path string" v).map fun s => { p with manifest := some s }) { name := "" }

/-- The name of a plugin is its only field that has to be given. -/
def plugin (v : Value) : Except Fault PluginDeclaration := do
  let p ← fields v
  match v with
  | .table entries =>
    if (Value.lookup "name" entries).isNone then fail (.missingField "name") else return p
  | .list [] => fail (.wrongLength 0 "struct PluginDeclaration with 6 elements")
  | _ => return p

/-- A plugin's selector is what its own field is read as, wherever it stands among the others. -/
theorem plugin_selected {before after : Value.Entries} {v : Value} {s : Declared}
    {p : PluginDeclaration} (read : selector v = .ok s) (once : "matcher" ∉ after.map (·.1))
    (others : plugin (.table (before ++ after)) = .ok p) :
    plugin (.table (before ++ ("matcher", v) :: after)) = .ok { p with selector := s } := by
  obtain ⟨p', done, named⟩ := bind_succeeds others
  have selected : fields (.table (before ++ ("matcher", v) :: after)) =
      .ok { p' with selector := s } := by
    refine fromEntries_inserted ({ · with selector := s }) (by decide)
      (fun p => congrArg (Except.map _) read) (fun other put => ?_) once done
    split at put <;> first
      | exact absurd rfl other
      | (obtain ⟨x, given, rfl⟩ := map_succeeds put; simp [given, Except.map])
  have same : Value.lookup "name" (before ++ ("matcher", v) :: after) =
      Value.lookup "name" (before ++ after) := by simp [Value.lookup, List.find?_append]
  rw [plugin, selected]
  change (if (Value.lookup "name" (before ++ after)).isNone then _ else _) = _ at named
  change (if (Value.lookup "name" _).isNone then _ else _) = _
  rw [same]
  split at named
  · cases named
  · rw [if_neg ‹_›, ← Except.ok.inj named]
    rfl

def settingsField (s : Settings) (key : String) (v : Value) : Except Fault Settings :=
  match key with
  | "engine" => (engine v).map ({ s with engine := · })
  | "logging" => (logging v).map ({ s with logging := · })
  | "source" => (source v).map ({ s with source := · })
  | _ => (sequence plugin v).map ({ s with plugins := · })

def settings (entries : Value.Entries) : Except Fault Settings :=
  fromEntries Settings.keys settingsField {} entries

/-- Each field that a table has a value for is what the value is read as. -/
structure EngineRead (entries : Value.Entries) (s : EngineSettings) : Prop where
  formatVersion : ∀ v, Value.lookup "class_file_version" entries = some v →
    string v = .ok s.formatVersion
  entryPoint : ∀ v, Value.lookup "entry_point" entries = some v → entryPoint v = .ok s.entryPoint
  failFast : ∀ v, Value.lookup "fail_fast" entries = some v → boolean v = .ok s.failFast
  notifyOnAbort : ∀ v, Value.lookup "notify_on_abort" entries = some v →
    boolean v = .ok s.notifyOnAbort
  failOnLiveInitializer : ∀ v, Value.lookup "fail_on_live_initializer" entries = some v →
    boolean v = .ok s.failOnLiveInitializer

theorem engine_read {entries : Value.Entries} {s : EngineSettings}
    (distinct : (entries.map (·.1)).Nodup) (done : engine (.table entries) = .ok s) :
    EngineRead entries s := by
  have read {β : Type} {key : String} {field : EngineSettings → β} {f : Value → Except Fault β}
      (own : ∀ {r r' v}, engineField r key v = .ok r' → f v = .ok (field r'))
      (others : ∀ {r r' k v}, k ∈ engineKeys → k ≠ key → engineField r k v = .ok r' →
        field r' = field r) (v : Value) (given : Value.lookup key entries = some v) :
      f v = .ok (field s) := fromEntries_given own others distinct done given
  constructor
  all_goals
    refine read (fun put => ?_) (fun listed other put => ?_)
    · obtain ⟨x, found, rfl⟩ := map_succeeds put
      exact found
    · simp only [engineKeys, List.mem_cons, List.not_mem_nil, or_false] at listed
      rcases listed with rfl | rfl | rfl | rfl | rfl <;> first
        | exact absurd rfl other
        | (obtain ⟨x, -, rfl⟩ := map_succeeds put; rfl)

theorem logging_read {entries : Value.Entries} {s : LogSettings}
    (distinct : (entries.map (·.1)).Nodup) (done : logging (.table entries) = .ok s) {v : Value}
    (given : Value.lookup "level" entries = some v) : string v = .ok s.level := by
  refine fromEntries_given (fun put => ?_) (fun listed other _ => ?_)
    distinct done given
  · obtain ⟨x, found, rfl⟩ := map_succeeds put
    exact found
  · exact absurd (List.mem_singleton.mp listed) other

theorem source_read {entries : Value.Entries} {s : SourceSettings}
    (distinct : (entries.map (·.1)).Nodup) (done : source (.table entries) = .ok s) {v : Value}
    (given : Value.lookup "skip_prefixes" entries = some v) :
    sequence string v = .ok s.skipPrefixes := by
  refine fromEntries_given (fun put => ?_)
    (fun listed other _ => ?_) distinct done given
  · obtain ⟨x, found, rfl⟩ := map_succeeds put
    exact found
  · exact absurd (List.mem_singleton.mp listed) other

structure SettingsRead (entries : Value.Entries) (s : Settings) : Prop where
  engine : ∀ v, Value.lookup "engine" entries = some v → engine v = .ok s.engine
  logging : ∀ v, Value.lookup "logging" entries = some v → logging v = .ok s.logging
  source : ∀ v, Value.lookup "source" entries = some v → source v = .ok s.source
  plugins : ∀ v, Value.lookup "plugins" entries = some v → sequence plugin v = .ok s.plugins

theorem settings_read {entries : Value.Entries} {s : Settings}
    (distinct : (entries.map (·.1)).Nodup) (done : settings entries = .ok s) :
    SettingsRead entries s := by
  have read {β : Type} {key : String} {field : Settings → β} {f : Value → Except Fault β}
      (own : ∀ {r r' v}, settingsField r key v = .ok r' → f v = .ok (field r'))
      (others : ∀ {r r' k v}, k ∈ Settings.keys → k ≠ key → settingsField r k v = .ok r' →
        field r' = field r) (v : Value) (given : Value.lookup key entries = some v) :
      f v = .ok (field s) := fromEntries_given own others distinct done given
  constructor
  all_goals
    refine read (fun put => ?_) (fun listed other put => ?_)
    · obtain ⟨x, found, rfl⟩ := map_succeeds put
      exact found
    · simp only [Settings.keys, List.mem_cons, List.not_mem_nil, or_false] at listed
      rcases listed with rfl | rfl | rfl | rfl <;> first
        | exact absurd rfl other
        | (obtain ⟨x, -, rfl⟩ := map_succeeds put; rfl)

end ClassForge.Settings.Decode
