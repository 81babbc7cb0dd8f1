import ClassForge.Proofs.BuiltEngines
import ClassForge.Proofs.PlannedArchive

/-!
From declarations to the entries of a registry. Of several declarations of one name the last decides
what is registered, at the place of the first; a plugin that it does not enable, or whose manifest
file cannot be used, is in no plan.
-/
namespace ClassForge
open List (Forall₂)
variable {σ : Type} {read : FileReader}

def Settings.lastDeclared? (s : Settings) (name : String) : Option PluginDeclaration :=
  s.plugins.reverse.find? (·.name == name)

namespace Manifest
variable {path name : String} {p : PluginDeclaration} {m : Manifest}

def StandsAt (read : FileReader) (path : String) (m : Manifest) : Prop :=
  ∃ bytes cs entries, read path = .ok bytes ∧ Text.Utf8.decode? bytes = some cs ∧
    Toml.parse (String.ofList cs) = .ok entries ∧ ofDocument entries = .ok m

inductive Unusable (read : FileReader) (path name : String) : Prop where
  | missing {fault : OsFault} (absent : read path = .error fault)
  | garbled {bytes : Bytes} (there : read path = .ok bytes)
      (binary : Text.Utf8.decode? bytes = none)
  | unparsable {bytes : Bytes} {cs : List Char} {fault : Toml.Fault} (there : read path = .ok bytes)
      (text : Text.Utf8.decode? bytes = some cs)
      (broken : Toml.parse (String.ofList cs) = .error fault)
  | misshapen {bytes : Bytes} {cs : List Char} {entries : Value.Entries} {fault : Manifest.Fault}
      (there : read path = .ok bytes) (text : Text.Utf8.decode? bytes = some cs)
      (document : Toml.parse (String.ofList cs) = .ok entries)
      (refused : ofDocument entries = .error fault)
  | nameless {m : Manifest} (stands : StandsAt read path m) (empty : m.name = "")
  | versionless {m : Manifest} (stands : StandsAt read path m) (empty : m.version = "")
  | ofOther {m : Manifest} (stands : StandsAt read path m) (other : m.name ≠ name)

/-- The manifest of a declared plugin: its own declaration, or what its manifest file holds. -/
inductive Describes (read : FileReader) (p : PluginDeclaration) : Manifest → Prop where
  | itself (alone : p.manifest = none) : Describes read p (.ofDeclaration p)
  | file {path : String} {m : Manifest} (located : p.manifest = some path)
      (stands : StandsAt read path m) (named : m.name ≠ "") (versioned : m.version ≠ "")
      (own : m.name = p.name) : Describes read p m

theorem load_stands (stands : StandsAt read path m) : load read path =
    if m.name = "" then .error (.configuration .manifestNameEmpty)
    else if m.version = "" then .error (.configuration .manifestVersionEmpty)
    else .ok m := by
  obtain ⟨bytes, cs, entries, there, text, document, shaped⟩ := stands
  rw [load_text there text]
  simp only [parse, document, shaped, String.isEmpty_iff]
  split
  · rfl
  · split <;> rfl

theorem declared_located (located : p.manifest = some path) : declared read p =
    match load read path with
    | .error err => .error err
    | .ok m =>
      if m.name = p.name then .ok m
      else .error (.configuration (.manifestOfOther path m.name p.name)) := by
  cases p
  subst located
  rfl

theorem declared_of_described (described : Describes read p m) : declared read p = .ok m := by
  cases described with
  | itself alone =>
    rw [declared, alone]
  | file located stands named versioned own =>
    rw [declared_located located, load_stands stands, if_neg named, if_neg versioned]
    exact if_pos own

theorem load_of_unusable (unusable : Unusable read path name) :
    (∃ err, load read path = .error err) ∨ ∃ m, load read path = .ok m ∧ m.name ≠ name := by
  cases unusable with
  | missing absent => exact .inl ⟨_, by rw [load, absent]⟩
  | garbled there binary => exact .inl ⟨_, by rw [load, there]; simp only [binary]; rfl⟩
  | unparsable there text broken =>
    exact .inl ⟨_, by rw [load_text there text, parse, broken]; rfl⟩
  | misshapen there text document refused =>
    exact .inl ⟨_, by rw [load_text there text]; simp only [parse, document, refused]; rfl⟩
  | nameless stands empty => exact .inl ⟨_, by rw [load_stands stands, if_pos empty]⟩
  | @versionless m stands empty =>
    by_cases nameless : m.name = ""
    · exact .inl ⟨_, by rw [load_stands stands, if_pos nameless]⟩
    · exact .inl ⟨_, by rw [load_stands stands, if_neg nameless, if_pos empty]⟩
  | @ofOther m stands other =>
    rw [load_stands stands]
    split
    · exact .inl ⟨_, rfl⟩
    · split
      · exact .inl ⟨_, rfl⟩
      · exact .inr ⟨m, rfl, other⟩

theorem declared_of_unusable (located : p.manifest = some path)
    (unusable : Unusable read path p.name) : ∃ err, declared read p = .error err := by
  rw [declared_located located]
  rcases load_of_unusable unusable with ⟨err, failed⟩ | ⟨m, loaded, other⟩
  · exact ⟨err, by rw [failed]⟩
  · exact ⟨_, by simp only [loaded, if_neg other]; rfl⟩

theorem stands_or_unusable (read : FileReader) (path name : String) :
    (∃ m, StandsAt read path m ∧ m.name ≠ "" ∧ m.version ≠ "" ∧ m.name = name) ∨
      Unusable read path name := by
  cases there : read path with
  | error fault => exact .inr (.missing there)
  | ok bytes =>
    cases text : Text.Utf8.decode? bytes with
    | none => exact .inr (.garbled there text)
    | some cs =>
      cases document : Toml.parse (String.ofList cs) with
      | error fault => exact .inr (.unparsable there text document)
      | ok entries =>
        cases shaped : ofDocument entries with
        | error fault => exact .inr (.misshapen there text document shaped)
        | ok m =>
          have stands : StandsAt read path m := ⟨bytes, cs, entries, there, text, document, shaped⟩
          by_cases nameless : m.name = ""
          · exact .inr (.nameless stands nameless)
          by_cases versionless : m.version = ""
          · exact .inr (.versionless stands versionless)
          by_cases own : m.name = name
          · exact .inl ⟨m, stands, nameless, versionless, own⟩
          · exact .inr (.ofOther stands own)

theorem described_or_unusable (read : FileReader) (p : PluginDeclaration) :
    (∃ m, Describes read p m) ∨ ∃ path, p.manifest = some path ∧ Unusable read path p.name := by
  cases located : p.manifest with
  | none => exact .inl ⟨_, .itself located⟩
  | some path =>
    rcases stands_or_unusable read path p.name with ⟨m, stands, named, versioned, own⟩ | unusable
    · exact .inl ⟨m, .file located stands named versioned own⟩
    · exact .inr ⟨path, rfl, unusable⟩

end Manifest

namespace Planning
open Manifest
variable {p : PluginDeclaration} {e : RegistryEntry σ PlanBuilder}

/-- Nothing comes of the plugin: it is not enabled, or its manifest file cannot be used. -/
def Barred (read : FileReader) (p : PluginDeclaration) : Prop :=
  p.enabled = false ∨ ∃ path, p.manifest = some path ∧ Unusable read path p.name

theorem not_unusable_of_described {m : Manifest} {path : String} (described : Describes read p m)
    (located : p.manifest = some path) : ¬Unusable read path p.name := by
  intro unusable
  obtain ⟨err, failed⟩ := declared_of_unusable located unusable
  simp [declared_of_described described] at failed

variable [PatternEngine]

inductive EntryOf (read : FileReader) (p : PluginDeclaration) :
    RegistryEntry σ PlanBuilder → Prop where
  | configured {m : Manifest} (described : Describes read p m) :
      EntryOf read p ⟨m, if p.enabled then .enabled else .disabled, some factory⟩
  | notConfigured {path : String} (located : p.manifest = some path)
      (unusable : Unusable read path p.name) :
      EntryOf read p ⟨.ofDeclaration p, .notConfigured, some factory⟩

theorem entryOf_iff : EntryOf read p e ↔ e = entry read p := by
  constructor
  · rintro (described | ⟨located, unusable⟩)
    · rw [entry, declared_of_described described]
    · obtain ⟨err, failed⟩ := declared_of_unusable located unusable
      rw [entry, failed]
  · rintro rfl
    rcases described_or_unusable read p with ⟨m, described⟩ | ⟨path, located, unusable⟩
    · rw [entry, declared_of_described described]
      exact .configured described
    · obtain ⟨err, failed⟩ := declared_of_unusable located unusable
      rw [entry, failed]
      exact .notConfigured located unusable

theorem registry_names (read : FileReader) (s : Settings) :
    (registry read s : Registry σ PlanBuilder).names = (s.plugins.map (·.name)).eraseDups := by
  rw [registry, Registry.ofEntries_names, List.map_map, name_comp_entry]

theorem registry_last (read : FileReader) (s : Settings) (name : String) :
    (registry read s : Registry σ PlanBuilder).get? name =
      (s.lastDeclared? name).map (entry read) := by
  rw [registry, Registry.ofEntries_get?, ← List.map_reverse, List.find?_map, named_comp_entry]
  rfl

theorem entry_of_last {s : Settings} (member : e ∈ (registry read s).entries) :
    ∃ p, s.lastDeclared? e.name = some p ∧ EntryOf read p e := by
  have found := (registry_indexed read s).get?_eq_some_iff.mpr ⟨member, rfl⟩
  rw [registry_last] at found
  obtain ⟨p, last, same⟩ := Option.map_eq_some_iff.mp found
  exact ⟨p, last, entryOf_iff.mpr same.symm⟩

theorem enabled_entry (entryOf : EntryOf read p e) (enabled : e.status = .enabled) :
    Describes read p e.manifest ∧ ¬Barred read p := by
  cases entryOf with
  | notConfigured => cases enabled
  | configured described =>
    refine ⟨described, ?_⟩
    rintro (off | ⟨path, located, unusable⟩)
    · simp [off] at enabled
    · exact not_unusable_of_described described located unusable

def Contributes (read : FileReader) (s : Settings) (c : Contribution) : Prop :=
  ∃ p m, s.lastDeclared? c.plugin = some p ∧ ¬Barred read p ∧ Describes read p m ∧
    c = ⟨m.name, m.contribution⟩

theorem chosen_contributes {s : Settings} {selected : List String} {m : Manifest}
    (member : m ∈ manifests read s selected) : Contributes read s ⟨m.name, m.contribution⟩ := by
  obtain ⟨x, chosen, rfl⟩ := List.mem_map.mp member
  obtain ⟨p, last, entryOf⟩ := entry_of_last (Registry.mem_of_chosen chosen)
  have enabled : x.status = .enabled := of_decide_eq_true (List.of_mem_filter chosen :)
  obtain ⟨described, allowed⟩ := enabled_entry entryOf enabled
  exact ⟨p, x.manifest, last, allowed, described, rfl⟩

structure FollowsLast (read : FileReader) (s : Settings) (σ : Type) : Prop where
  /-- The names as they are first declared. -/
  entries : Forall₂ (fun name e => e.name = name ∧ ∃ p, s.lastDeclared? name = some p ∧
    EntryOf read p e) (s.plugins.map (·.name)).eraseDups
      (registry read s : Registry σ PlanBuilder).entries
  plans : ∀ archive selected res, plan read s archive selected = .ok res →
    ∀ x ∈ res.ledger, ∀ a, x.disposition = .replaced a → ∃ shown : Plan,
      a.bytes = Text.Utf8.encode (Json.render shown.toJson) ∧
        ∀ c ∈ shown.contributions, Contributes read s c

/-- Of the declarations of a name the last one decides. -/
theorem last_declaration_decides (read : FileReader) (s : Settings) (σ : Type) :
    FollowsLast read s σ := by
  constructor
  case entries =>
    rw [← registry_names (σ := σ) read s, Registry.names, List.forall₂_map_left_iff,
      List.forall₂_same]
    exact fun e member => ⟨rfl, entry_of_last member⟩
  case plans =>
    intro archive selected res planned x member a replaced
    obtain ⟨e, ledger, -, -, -, rfl⟩ := plan_settles planned
    obtain ⟨y, -, rfl⟩ := List.mem_map.mp member
    have settled := settle_planned s e.version (manifests read s selected) y
    generalize settle s e.version (manifests read s selected) y = x at settled replaced
    cases settled with
    | unresolved => cases replaced
    | ignored => cases replaced
    | @planned t _ a' _ _ _ _ bytes =>
      obtain rfl := Disposition.replaced.inj replaced
      refine ⟨planFor s e.version (manifests read s selected) t, bytes, fun c listed => ?_⟩
      obtain ⟨m, among, rfl⟩ := List.mem_map.mp listed
      exact chosen_contributes (List.mem_of_mem_filter among)

end Planning
end ClassForge
