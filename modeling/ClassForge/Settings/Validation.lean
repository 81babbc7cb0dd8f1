import ClassForge.Settings.Model
import ClassForge.Text.Blank

/-!
What settings have to fulfil beyond their types. All violations are listed: the version, the log
level, the skipped beginnings in order, and then plugin by plugin its name, its manifest and its
selector.
-/
namespace ClassForge.Settings

inductive SelectorFault where
  | pattern (text : String) (detail : Detail)
  | noMembers
  deriving DecidableEq, Repr

inductive Violation where
  | version (fault : VersionFault)
  | level (given : String)
  | emptySkip (index : Nat)
  | blankName (index : Nat)
  | repeatedName (name : String)
  | emptyManifest (index : Nat)
  /-- The path holds the positions of members that lead to the faulty part. -/
  | selector (plugin : Nat) (path : List Nat) (fault : SelectorFault)
  deriving DecidableEq, Repr

def position (i : Nat) : String := "[" ++ Number.decimal i ++ "]"

/-- The text of a path: each position is put behind the text of where it is taken from. -/
def pathText (base : String) : List Nat → String
  | [] => base
  | i :: path => pathText (base ++ position i) path

def levels : List String := ["trace", "debug", "info", "warn", "error"]

def SelectorFault.messageBy (say : Detail → String) : SelectorFault → String
  | .pattern text detail => "invalid name_matches pattern \x60" ++ text ++ "\x60: " ++ say detail
  | .noMembers => "and/or matchers need at least one member"

def Violation.messageBy (say : Detail → String) : Violation → String
  | .version fault =>
    "engine.class_file_version: " ++ (RunError.configuration (.version fault)).messageBy say
  | .level given =>
    let known := String.intercalate ", " levels
    s!"logging.level \x60{given}\x60 is not one of {known}"
  | .emptySkip i => "source.skip_prefixes" ++ position i ++ " must not be empty"
  | .blankName i => "plugins" ++ position i ++ ".name must not be empty"
  | .repeatedName name => s!"duplicate plugin name \x60{name}\x60 in [[plugins]] array"
  | .emptyManifest i => "plugins" ++ position i ++ ".manifest must not be empty"
  | .selector plugin path fault =>
    pathText ("plugins" ++ position plugin ++ ".matcher") path ++ ": " ++ fault.messageBy say

mutual

/-- The faulty parts of a selector, in the order in which they are written. -/
def selectorFaults [PatternEngine] : Declared → List (List Nat × SelectorFault)
  | .matching text =>
    match NamePattern.ofText text with
    | .ok _ => []
    | .error detail => [([], .pattern text detail)]
  | .allOf ms => (if ms.isEmpty then [([], .noMembers)] else []) ++ memberFaults 0 ms
  | .anyOf ms => (if ms.isEmpty then [([], .noMembers)] else []) ++ memberFaults 0 ms
  | .except m => selectorFaults m
  | _ => []

def memberFaults [PatternEngine] : Nat → List Declared → List (List Nat × SelectorFault)
  | _, [] => []
  | i, m :: ms =>
    (selectorFaults m).map (fun (path, fault) => (i :: path, fault)) ++ memberFaults (i + 1) ms

end

def when (condition : Bool) (v : Violation) : List Violation :=
  if condition then [v] else []

def versionViolations (text : String) : List Violation :=
  match FormatVersion.parse text with
  | .ok _ => []
  | .error fault => [.version fault]

def levelViolations (level : String) : List Violation :=
  when (!levels.contains (String.ofList (level.toList.map Char.toLower))) (.level level)

/-- A blank name is refused, and so is one that an earlier plugin has. -/
def nameViolations (seen : List String) (i : Nat) (name : String) : List Violation :=
  if Text.allBlank name.toList then [.blankName i]
  else when (seen.contains name) (.repeatedName name)

def pluginViolations [PatternEngine] (seen : List String) (i : Nat) (p : PluginDeclaration) :
    List Violation :=
  nameViolations seen i p.name ++ when (p.manifest == some "") (.emptyManifest i) ++
    (selectorFaults p.selector).map fun (path, fault) => .selector i path fault

def pluginsFrom [PatternEngine] (seen : List String) : Nat → List PluginDeclaration → List Violation
  | _, [] => []
  | i, p :: ps => pluginViolations seen i p ++ pluginsFrom (p.name :: seen) (i + 1) ps

def violations [PatternEngine] (s : Settings) : List Violation :=
  versionViolations s.engine.formatVersion ++ levelViolations s.logging.level ++
    s.source.skipPrefixes.zipIdx.flatMap (fun (start, i) => when start.isEmpty (.emptySkip i)) ++
    pluginsFrom [] 0 s.plugins

structure Valid [PatternEngine] (s : Settings) : Prop where
  version : ∃ v, FormatVersion.parse s.engine.formatVersion = .ok v
  level : String.ofList (s.logging.level.toList.map Char.toLower) ∈ levels
  starts : ∀ start ∈ s.source.skipPrefixes, start ≠ ""
  named : ∀ p ∈ s.plugins, Text.allBlank p.name.toList = false
  distinct : (s.plugins.map (·.name)).Nodup
  located : ∀ p ∈ s.plugins, p.manifest ≠ some ""
  selectors : ∀ p ∈ s.plugins, selectorFaults p.selector = []

theorem when_eq_nil {condition : Bool} {v : Violation} :
    when condition v = [] ↔ condition = false := by
  cases condition <;> simp [when]

theorem versionViolations_eq_nil {text : String} :
    versionViolations text = [] ↔ ∃ v, FormatVersion.parse text = .ok v := by
  unfold versionViolations
  split <;> simp_all

theorem levelViolations_eq_nil {level : String} :
    levelViolations level = [] ↔ String.ofList (level.toList.map Char.toLower) ∈ levels := by
  simp [levelViolations, when_eq_nil]

theorem nameViolations_eq_nil {seen : List String} {i : Nat} {name : String} :
    nameViolations seen i name = [] ↔ Text.allBlank name.toList = false ∧ name ∉ seen := by
  cases blank : Text.allBlank name.toList <;> simp [nameViolations, blank, when_eq_nil]

private theorem starts_eq_nil {starts : List String} :
    starts.zipIdx.flatMap (fun (start, i) => when start.isEmpty (.emptySkip i)) = [] ↔
      ∀ start ∈ starts, start ≠ "" := by
  rw [List.flatMap_eq_nil_iff]
  constructor
  · intro quiet start member
    obtain ⟨i, inside, rfl⟩ := List.mem_iff_getElem.mp member
    have here := quiet (starts[i], i) (by simp [List.mem_zipIdx_iff_getElem?, inside])
    simpa [when_eq_nil] using here
  · intro filled p member
    simpa [when_eq_nil] using filled p.1 (List.fst_mem_of_mem_zipIdx member)

variable [PatternEngine]

theorem pluginViolations_eq_nil {seen : List String} {i : Nat} {p : PluginDeclaration} :
    pluginViolations seen i p = [] ↔
      (Text.allBlank p.name.toList = false ∧ p.name ∉ seen) ∧ p.manifest ≠ some "" ∧
        selectorFaults p.selector = [] := by
  simp [pluginViolations, nameViolations_eq_nil, when_eq_nil, and_assoc]

private theorem pluginsFrom_eq_nil {seen : List String} {i : Nat} {ps : List PluginDeclaration} :
    pluginsFrom seen i ps = [] ↔
      (∀ p ∈ ps, Text.allBlank p.name.toList = false ∧ p.manifest ≠ some "" ∧
        selectorFaults p.selector = []) ∧
      (ps.map (·.name)).Nodup ∧ ∀ p ∈ ps, p.name ∉ seen := by
  induction ps generalizing seen i with
  | nil => simp [pluginsFrom]
  | cons p ps ih =>
    have apart : (∀ q ∈ ps, q.name ∉ p.name :: seen) ↔
        p.name ∉ ps.map (·.name) ∧ ∀ q ∈ ps, q.name ∉ seen := by
      simp only [List.mem_cons, not_or, forall_and, List.mem_map, not_exists, not_and]
    rw [pluginsFrom, List.append_eq_nil_iff, pluginViolations_eq_nil, ih, apart, List.map_cons,
      List.nodup_cons, List.forall_mem_cons, List.forall_mem_cons]
    constructor
    · rintro ⟨⟨⟨named, new⟩, rest⟩, later, distinct, absent, newLater⟩
      exact ⟨⟨⟨named, rest⟩, later⟩, ⟨absent, distinct⟩, new, newLater⟩
    · rintro ⟨⟨⟨named, rest⟩, later⟩, ⟨absent, distinct⟩, new, newLater⟩
      exact ⟨⟨⟨named, new⟩, rest⟩, later, distinct, absent, newLater⟩

theorem violations_eq_nil_iff {s : Settings} : s.violations = [] ↔ s.Valid := by
  rw [violations, List.append_eq_nil_iff, List.append_eq_nil_iff, List.append_eq_nil_iff,
    versionViolations_eq_nil, levelViolations_eq_nil, starts_eq_nil, pluginsFrom_eq_nil]
  constructor
  · rintro ⟨⟨⟨version, level⟩, starts⟩, each, distinct, -⟩
    exact ⟨version, level, starts, fun p h => (each p h).1, distinct, fun p h => (each p h).2.1,
      fun p h => (each p h).2.2⟩
  · rintro ⟨version, level, starts, named, distinct, located, selectors⟩
    exact ⟨⟨⟨version, level⟩, starts⟩, fun p h => ⟨named p h, located p h, selectors p h⟩,
      distinct, by simp⟩

end ClassForge.Settings
