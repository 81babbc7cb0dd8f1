import ClassForge.Proofs.FaultPaths

/-!
What is told of settings that are not valid. There are sites in settings, and for each of them one
thing that may be wrong there; the violations recount what is wrong, site by site, and leave
nothing out.
-/
namespace ClassForge.Settings

inductive PluginSite where
  | name
  | manifest
  | part (address : List Nat)
  deriving DecidableEq, Repr

inductive Site where
  | version
  | level
  | skip (index : Nat)
  | plugin (index : Nat) (site : PluginSite)
  deriving DecidableEq, Repr

def PluginSite.key : PluginSite → List Nat
  | .name => [0]
  | .manifest => [1]
  | .part address => 2 :: address

def Site.key : Site → List Nat
  | .version => [0]
  | .level => [1]
  | .skip i => [2, i]
  | .plugin i site => 3 :: i :: site.key

instance : LT PluginSite := ⟨fun site site' => site.key < site'.key⟩

instance : LT Site := ⟨fun site site' => site.key < site'.key⟩

theorem PluginSite.lt_irrefl (site : PluginSite) : ¬site < site := List.lt_irrefl site.key

theorem Site.lt_irrefl (site : Site) : ¬site < site := List.lt_irrefl site.key

variable {seen seen' : List String} {v : Violation}

theorem mem_when {condition : Bool} {told : Violation} :
    v ∈ when condition told ↔ condition = true ∧ v = told := by
  cases condition <;> simp [when]

theorem when_short (condition : Bool) (told : Violation) : (when condition told).length ≤ 1 := by
  cases condition <;> simp [when]

theorem nameViolations_short (seen : List String) (i : Nat) (name : String) :
    (nameViolations seen i name).length ≤ 1 := by
  unfold nameViolations
  split
  · exact Nat.le_refl 1
  · exact when_short _ _

theorem nameViolations_congr (same : ∀ name, name ∈ seen ↔ name ∈ seen') (i : Nat) (name : String) :
    nameViolations seen i name = nameViolations seen' i name := by
  have known : seen.contains name = seen'.contains name := by
    rw [Bool.eq_iff_iff, List.contains_iff_mem, List.contains_iff_mem, same]
  rw [nameViolations, nameViolations, known]

variable [PatternEngine]

inductive PluginBreach (earlier : List PluginDeclaration) (i : Nat) (p : PluginDeclaration) :
    PluginSite → Violation → Prop where
  | blank (blank : Text.allBlank p.name.toList = true) :
      PluginBreach earlier i p .name (.blankName i)
  | repeated (named : Text.allBlank p.name.toList = false)
      (taken : ∃ q ∈ earlier, q.name = p.name) :
      PluginBreach earlier i p .name (.repeatedName p.name)
  | manifest (unnamed : p.manifest = some "") :
      PluginBreach earlier i p .manifest (.emptyManifest i)
  | part {address path fault} (faulty : Blames p.selector address (path, fault)) :
      PluginBreach earlier i p (.part address) (.selector i path fault)

inductive Breach (s : Settings) : Site → Violation → Prop where
  | version {fault} (refused : FormatVersion.parse s.engine.formatVersion = .error fault) :
      Breach s .version (.version fault)
  | level (unknown : String.ofList (s.logging.level.toList.map Char.toLower) ∉ levels) :
      Breach s .level (.level s.logging.level)
  | skip {i} (empty : s.source.skipPrefixes[i]? = some "") : Breach s (.skip i) (.emptySkip i)
  | plugin {i p site v} (there : s.plugins[i]? = some p)
      (breach : PluginBreach (s.plugins.take i) i p site v) : Breach s (.plugin i site) v

/-- No pattern in a selector is refused, and no list of members is empty. -/
def Faultless (d : Declared) : Prop :=
  ∀ address part, d.part? address = some part → ∀ fault, ¬HasFault part fault

structure ToldExactly (s : Settings) : Prop where
  accepted_iff : s.violations = [] ↔ s.Valid
  /-- This is what validity asks of the selectors. -/
  faultless_iff : ∀ d : Declared, selectorFaults d = [] ↔ Faultless d
  recounts : Recounts (fun site site' : Site => site < site') (Breach s) s.violations

variable {s : Settings} {p : PluginDeclaration} {earlier : List PluginDeclaration} {i : Nat}

theorem faultless_iff_unblamed (d : Declared) :
    Faultless d ↔ ∀ address told, ¬Blames d address told := by
  constructor
  · rintro faultless address told ⟨⟨part, found, faulty⟩, -⟩
    exact faultless address part found told.2 faulty
  · intro unblamed address part found fault faulty
    obtain ⟨path, leads⟩ := Selector.Leads.exists_of_part found faulty.affirmed
    exact unblamed address (path, fault) ⟨⟨part, found, faulty⟩, leads⟩

theorem mem_versionViolations : v ∈ versionViolations s.engine.formatVersion ↔
    Breach s .version v := by
  unfold versionViolations
  split
  · rename_i version read
    refine iff_of_false List.not_mem_nil fun breach => ?_
    cases breach with
    | version refused => cases read.symm.trans refused
  · rename_i fault refused
    rw [List.mem_singleton]
    constructor
    · rintro rfl
      exact .version refused
    · intro breach
      cases breach with
      | version refused' => rw [Except.error.inj (refused.symm.trans refused')]

theorem mem_levelViolations : v ∈ levelViolations s.logging.level ↔ Breach s .level v := by
  rw [levelViolations, mem_when]
  constructor
  · rintro ⟨unknown, rfl⟩
    exact .level (by simpa using unknown)
  · intro breach
    cases breach with
    | level unknown => exact ⟨by simpa using unknown, rfl⟩

theorem mem_skipViolations {start : String} (there : s.source.skipPrefixes[i]? = some start) :
    v ∈ when start.isEmpty (.emptySkip i) ↔ Breach s (.skip i) v := by
  rw [mem_when, String.isEmpty_iff]
  constructor
  · rintro ⟨rfl, rfl⟩
    exact .skip there
  · intro breach
    cases breach with
    | skip empty => exact ⟨Option.some.inj (there.symm.trans empty), rfl⟩

theorem mem_nameViolations : v ∈ nameViolations (earlier.map (·.name)) i p.name ↔
    PluginBreach earlier i p .name v := by
  cases blank : Text.allBlank p.name.toList with
  | true =>
    rw [nameViolations, if_pos blank, List.mem_singleton]
    constructor
    · rintro rfl
      exact .blank blank
    · intro breach
      cases breach with
      | blank => rfl
      | repeated named => cases blank.symm.trans named
  | false =>
    rw [nameViolations, if_neg (by simp [blank]), mem_when, List.contains_iff_mem, List.mem_map]
    constructor
    · rintro ⟨taken, rfl⟩
      exact .repeated blank taken
    · intro breach
      cases breach with
      | blank blank' => cases blank.symm.trans blank'
      | repeated _ taken => exact ⟨taken, rfl⟩

theorem mem_manifestViolations : v ∈ when (p.manifest == some "") (.emptyManifest i) ↔
    PluginBreach earlier i p .manifest v := by
  rw [mem_when, beq_iff_eq]
  constructor
  · rintro ⟨unnamed, rfl⟩
    exact .manifest unnamed
  · intro breach
    cases breach with
    | manifest unnamed => exact ⟨unnamed, rfl⟩

theorem selector_recount (earlier : List PluginDeclaration) (i : Nat) (p : PluginDeclaration) :
    Recounts (fun site site' : PluginSite => site < site')
      (fun site v => (∃ address, site = .part address) ∧ PluginBreach earlier i p site v)
      ((selectorFaults p.selector).map fun (path, fault) => .selector i path fault) := by
  refine ((selectorFaults_recount p.selector).relabelled (fun _ _ => PluginSite.part.inj)
    (fun _ _ first => List.cons_lt_cons_iff.mpr (Or.inr ⟨rfl, first⟩)) _).congr fun site v => ?_
  constructor
  · rintro ⟨⟨address, rfl⟩, breach⟩
    cases breach with
    | part faulty => exact ⟨address, _, faulty, rfl, rfl⟩
  · rintro ⟨address, told, faulty, rfl, rfl⟩
    exact ⟨⟨address, rfl⟩, .part faulty⟩

theorem plugin_recount (earlier : List PluginDeclaration) (i : Nat) (p : PluginDeclaration) :
    Recounts (fun site site' : PluginSite => site < site') (PluginBreach earlier i p)
      (pluginViolations (earlier.map (·.name)) i p) := by
  have name : Recounts (fun site site' : PluginSite => site < site')
      (fun site v => site = .name ∧ PluginBreach earlier i p site v)
      (nameViolations (earlier.map (·.name)) i p.name) :=
    .atMostOne .name (fun _ _ => and_congr_right fun here => here ▸ mem_nameViolations.symm)
      (nameViolations_short _ _ _)
  have manifest : Recounts (fun site site' : PluginSite => site < site')
      (fun site v => site = .manifest ∧ PluginBreach earlier i p site v)
      (when (p.manifest == some "") (.emptyManifest i)) :=
    .atMostOne .manifest (fun _ _ => and_congr_right fun here => here ▸ mem_manifestViolations.symm)
      (when_short _ _)
  refine ((name.append PluginSite.lt_irrefl manifest ?_).append PluginSite.lt_irrefl
    (selector_recount earlier i p) ?_).congr fun site v => ?_
  · rintro _ _ _ _ ⟨rfl, -⟩ ⟨rfl, -⟩
    exact List.Lex.rel (by decide)
  · rintro _ _ _ _ (⟨rfl, -⟩ | ⟨rfl, -⟩) ⟨⟨address, rfl⟩, -⟩ <;> exact List.Lex.rel (by decide)
  · cases site <;> simp

theorem pluginsFrom_eq (done ps : List PluginDeclaration)
    (same : ∀ name, name ∈ seen ↔ name ∈ done.map (·.name)) :
    pluginsFrom seen done.length ps = (ps.zipIdx done.length).flatMap fun (p, i) =>
      pluginViolations (((done ++ ps).take i).map (·.name)) i p := by
  induction ps generalizing done seen with
  | nil => rfl
  | cons p ps ih =>
    have first : pluginViolations seen done.length p =
        pluginViolations (((done ++ p :: ps).take done.length).map (·.name)) done.length p := by
      rw [pluginViolations, pluginViolations, List.take_left' rfl, nameViolations_congr same]
    have taken : ∀ name, name ∈ p.name :: seen ↔ name ∈ (done ++ [p]).map (·.name) :=
      fun name => by simp [same, or_comm]
    have rest := ih (done ++ [p]) taken
    rw [List.length_append, List.length_singleton, List.append_assoc,
      List.singleton_append] at rest
    rw [pluginsFrom, List.zipIdx_cons, List.flatMap_cons, first, rest]

theorem version_recount (s : Settings) : Recounts (fun site site' : Site => site < site')
    (fun site v => site = .version ∧ Breach s site v)
    (versionViolations s.engine.formatVersion) := by
  refine .atMostOne .version
    (fun _ _ => and_congr_right fun here => here ▸ mem_versionViolations.symm) ?_
  unfold versionViolations
  split <;> simp

theorem level_recount (s : Settings) : Recounts (fun site site' : Site => site < site')
    (fun site v => site = .level ∧ Breach s site v) (levelViolations s.logging.level) :=
  .atMostOne .level (fun _ _ => and_congr_right fun here => here ▸ mem_levelViolations.symm)
    (when_short _ _)

theorem skips_recount (s : Settings) : Recounts (fun site site' : Site => site < site')
    (fun site v => (∃ i, site = .skip i) ∧ Breach s site v)
    (s.source.skipPrefixes.zipIdx.flatMap fun (start, i) => when start.isEmpty (.emptySkip i)) := by
  have each (i : Nat) (start : String) (there : s.source.skipPrefixes[i]? = some start) :
      Recounts (fun site site' : Site => site < site')
        (fun site v => site = .skip i ∧ Breach s site v) (when start.isEmpty (.emptySkip i)) :=
    .atMostOne (.skip i)
      (fun _ _ => and_congr_right fun here => here ▸ (mem_skipViolations there).symm)
      (when_short _ _)
  have whole := Recounts.along Site.lt_irrefl s.source.skipPrefixes _ _ each (by
    rintro i j _ _ _ _ _ _ first ⟨rfl, -⟩ ⟨rfl, -⟩
    exact List.Lex.cons (List.Lex.rel first))
  refine whole.congr fun site v => ?_
  constructor
  · rintro ⟨⟨i, rfl⟩, breach⟩
    cases breach with
    | skip empty => exact ⟨i, "", empty, rfl, .skip empty⟩
  · rintro ⟨i, start, -, rfl, breach⟩
    exact ⟨⟨i, rfl⟩, breach⟩

theorem plugins_recount (s : Settings) : Recounts (fun site site' : Site => site < site')
    (fun site v => (∃ i inner, site = .plugin i inner) ∧ Breach s site v)
    (pluginsFrom [] 0 s.plugins) := by
  have named : pluginsFrom [] 0 s.plugins = s.plugins.zipIdx.flatMap fun (p, i) =>
      pluginViolations ((s.plugins.take i).map (·.name)) i p :=
    pluginsFrom_eq [] s.plugins fun _ => Iff.rfl
  have each (i : Nat) (p : PluginDeclaration) (_ : s.plugins[i]? = some p) :
      Recounts (fun site site' : Site => site < site')
        (fun site v =>
          ∃ inner, PluginBreach (s.plugins.take i) i p inner v ∧ .plugin i inner = site)
        (pluginViolations ((s.plugins.take i).map (·.name)) i p) := by
    have deeper (site site' : PluginSite) (first : site < site') :
        Site.plugin i site < Site.plugin i site' := List.Lex.cons (List.Lex.cons first)
    have alone := (plugin_recount (s.plugins.take i) i p).relabelled
      (fun _ _ same => (Site.plugin.inj same).2) deeper id
    rw [List.map_id] at alone
    exact alone.congr fun site v => by simp [and_comm]
  have whole := Recounts.along Site.lt_irrefl s.plugins _ _ each (by
    rintro i j _ _ _ _ _ _ first ⟨_, -, rfl⟩ ⟨_, -, rfl⟩
    exact List.Lex.cons (List.Lex.rel first))
  rw [named]
  refine whole.congr fun site v => ?_
  constructor
  · rintro ⟨⟨i, inner, rfl⟩, breach⟩
    cases breach with
    | plugin there breach => exact ⟨i, _, there, inner, breach, rfl⟩
  · rintro ⟨i, p, there, inner, breach, rfl⟩
    exact ⟨⟨i, inner, rfl⟩, .plugin there breach⟩

/-- Settings are accepted when they are valid and only then. Otherwise each breach is told of once,
site by site. -/
theorem violations_told_exactly (s : Settings) : ToldExactly s := by
  constructor
  case accepted_iff => exact violations_eq_nil_iff
  case faultless_iff =>
    intro d
    rw [faultless_iff_unblamed, (selectorFaults_recount d).eq_nil_iff]
  case recounts =>
    refine ((((version_recount s).append Site.lt_irrefl (level_recount s) ?_).append Site.lt_irrefl
      (skips_recount s) ?_).append Site.lt_irrefl (plugins_recount s) ?_).congr fun site v => ?_
    · rintro _ _ _ _ ⟨rfl, -⟩ ⟨rfl, -⟩
      exact List.Lex.rel (by decide)
    · rintro _ _ _ _ (⟨rfl, -⟩ | ⟨rfl, -⟩) ⟨⟨_, rfl⟩, -⟩ <;> exact List.Lex.rel (by decide)
    · rintro _ _ _ _ ((⟨rfl, -⟩ | ⟨rfl, -⟩) | ⟨⟨_, rfl⟩, -⟩) ⟨⟨_, _, rfl⟩, -⟩ <;>
        exact List.Lex.rel (by decide)
    · cases site <;> simp

end ClassForge.Settings
