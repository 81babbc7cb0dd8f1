import ClassForge.Pattern.Engine
import ClassForge.Proofs.LocatedClasses
import ClassForge.Settings.Diagnostic

/-!
Settings of a file under its two names. By its relative name and by its absolute one the same
settings are accepted, and the same is wrong with all others. But what a file has is said to come
from the absolute name: by the relative one the text is not looked into for a key of the file, and
where an unknown key stands is lost.
-/
namespace ClassForge.Settings

namespace Diagnostic

def place? : Diagnostic → Option KeyPlace
  | .unknownKey _ _ _ place => place
  | _ => none

def mapPlace (f : Option KeyPlace → Option KeyPlace) : Diagnostic → Diagnostic
  | .unknownKey key suggestion valid place => .unknownKey key suggestion valid (f place)
  | d => d

def unplaced : Diagnostic → Diagnostic := mapPlace fun _ => none

/-- The diagnostic with another name for the text that has its key. -/
def inText (name : String) : Diagnostic → Diagnostic :=
  mapPlace (·.map fun place => { place with source := name })

theorem inText_inText (name other : String) (d : Diagnostic) :
    (d.inText other).inText name = d.inText name := by
  cases d with
  | unknownKey key suggestion valid place => cases place <;> rfl
  | _ => rfl

theorem place?_inText (name : String) (d : Diagnostic) :
    (d.inText name).place? = d.place?.map fun place => { place with source := name } := by
  cases d <;> rfl

theorem place?_unplaced (d : Diagnostic) : d.unplaced.place? = none := by
  cases d <;> rfl

theorem unplaced_of_nowhere {d : Diagnostic} (nowhere : d.place? = none) : d.unplaced = d := by
  cases d with
  | unknownKey key suggestion valid place =>
    obtain rfl : place = none := nowhere
    rfl
  | _ => rfl

end Diagnostic

/-- The same settings, or the same diagnostics up to the names of the texts that have the keys. -/
def SameButNames (r r' : Except (List Diagnostic) Settings) : Prop :=
  r.mapError (List.map (Diagnostic.inText "")) = r'.mapError (List.map (Diagnostic.inText ""))

def spans (r : Except (List Diagnostic) Settings) : List (Nat × Nat) :=
  ((faultOf? r).getD []).filterMap fun d => d.place?.map fun place => (place.offset, place.length)

theorem spans_inText (name : String) (r : Except (List Diagnostic) Settings) :
    spans (r.mapError (List.map (Diagnostic.inText name))) = spans r := by
  cases r with
  | ok s => rfl
  | error ds =>
    simp only [spans, mapError_error, faultOf?, Option.getD_some, List.filterMap_map]
    refine congrArg (List.filterMap · ds) (funext fun d => ?_)
    rw [Function.comp, Diagnostic.place?_inText, Option.map_map]
    rfl

theorem SameButNames.spans {r r' : Except (List Diagnostic) Settings} (same : SameButNames r r') :
    spans r = spans r' := by
  rw [← spans_inText "" r, same, spans_inText]

theorem SameButNames.inText (name : String) (r : Except (List Diagnostic) Settings) :
    SameButNames (r.mapError (List.map (Diagnostic.inText name))) r := by
  cases r with
  | ok s => rfl
  | error ds =>
    refine congrArg Except.error ?_
    rw [List.map_map]
    exact List.map_congr_left fun d _ => Diagnostic.inText_inText "" name d

section
variable {sources sources' : List SourceText} {workingDirectory : String}
  {f : Option KeyPlace → Option KeyPlace} {origin : Origin}

theorem ofProblem_mapPlace (each : ∀ path key,
      keyPlace? sources origin path key = f (keyPlace? sources' origin path key))
    (fault : Decode.Fault) : ofProblem sources workingDirectory origin fault =
      (ofProblem sources' workingDirectory origin fault).mapPlace f := by
  unfold ofProblem
  cases fault.problem with
  | unknownField name known => exact congrArg (Diagnostic.unknownKey _ _ _) (each _ _)
  | _ => rfl

theorem ofReadFault_mapPlace (fault : ReadFault) :
    (ofReadFault workingDirectory fault).mapPlace f = ofReadFault workingDirectory fault := by
  cases fault <;> rfl

theorem loadChecked_mapPlace [PatternEngine] {inputs : List Input}
    (each : ∀ fault origin, load inputs = .error (.unusable fault origin) → ∀ path key,
      keyPlace? sources origin path key = f (keyPlace? sources' origin path key)) :
    loadChecked inputs sources workingDirectory =
      (loadChecked inputs sources' workingDirectory).mapError
        (List.map (Diagnostic.mapPlace f)) := by
  unfold loadChecked
  cases loaded : load inputs with
  | ok s =>
    dsimp only
    split
    · rfl
    · rw [mapError_error, List.map_map]
      rfl
  | error failed =>
    refine congrArg Except.error ?_
    cases failed with
    | unreadable faults =>
      rw [LoadFault.diagnostics, LoadFault.diagnostics, List.map_map]
      exact List.map_congr_left fun fault _ => (ofReadFault_mapPlace fault).symm
    | unusable fault origin =>
      exact congrArg ([·]) (ofProblem_mapPlace (each fault origin loaded) fault)

theorem ofProblem_place? (fault : Decode.Fault) :
    (ofProblem sources workingDirectory origin fault).place? =
      match fault.problem with
      | .unknownField key _ => keyPlace? sources origin fault.path key
      | _ => none := by
  unfold ofProblem
  cases fault.problem <;> rfl

end

section
variable {sources : List SourceText} {origin : Origin}

theorem keyPlace?_of_source {s : SourceText} (source : sourceOf? sources origin = some s)
    (path : List String) (key : String) : keyPlace? sources origin path key =
      (KeySearch.offset? s.content path key).map fun o => ⟨s.name, o, key.utf8ByteSize⟩ := by
  rw [keyPlace?, source]
  cases found : KeySearch.offset? s.content path key <;> simp [found]

theorem keyPlace?_of_no_source (missing : sourceOf? sources origin = none) (path : List String)
    (key : String) : keyPlace? sources origin path key = none := by
  rw [keyPlace?, missing]
  rfl

end

section
variable {name other : String} {content : Option FileText} {origin : Origin}

theorem sourceText?_eq (content : Option FileText) :
    (∀ name, sourceText? name content = []) ∨
      ∃ text, content = some (.text text) ∧ ∀ name, sourceText? name content = [⟨name, text⟩] := by
  cases content with
  | none => exact .inl fun _ => rfl
  | some text =>
    cases text with
    | text text => exact .inr ⟨text, rfl, fun _ => rfl⟩
    | undecodable => exact .inl fun _ => rfl

/-- What is said to come from another file is not looked for. -/
theorem keyPlace?_of_other {file : String} (apart : name ≠ file) (path : List String)
    (key : String) : keyPlace? (sourceText? name content) (.file file) path key = none := by
  refine keyPlace?_of_no_source ?_ path key
  rcases sourceText?_eq content with no | ⟨text, -, given⟩
  · rw [no]
    rfl
  · rw [given]
    simp [sourceOf?, apart]

/-- What comes from no file is looked for in the only text, whatever its name is. -/
theorem keyPlace?_of_no_file (elsewhere : ∀ file, origin ≠ .file file) (path : List String)
    (key : String) : keyPlace? (sourceText? name content) origin path key =
      (keyPlace? (sourceText? other content) origin path key).map
        fun place => { place with source := name } := by
  have lone (s : SourceText) : sourceOf? [s] origin = some s := by
    cases origin with
    | file file => exact absurd rfl (elsewhere file)
    | _ => rfl
  have nothing : sourceOf? [] origin = none := by
    cases origin <;> rfl
  rcases sourceText?_eq content with no | ⟨text, -, given⟩
  · rw [no, no, keyPlace?_of_no_source nothing]
    rfl
  · rw [given, given, keyPlace?_of_source (lone _), keyPlace?_of_source (lone _), Option.map_map]
    rfl

theorem keyPlace?_of_own {path : List String} {key : String} {place : KeyPlace} :
    keyPlace? (sourceText? name content) (.file name) path key = some place ↔
      ∃ text offset, content = some (.text text) ∧
        KeySearch.offset? text path key = some offset ∧
        place = ⟨name, offset, key.utf8ByteSize⟩ := by
  rcases sourceText?_eq content with no | ⟨text, rfl, given⟩
  · rw [no, keyPlace?_of_no_source rfl]
    refine iff_of_false nofun ?_
    rintro ⟨text, offset, rfl, -⟩
    cases no name
  · have own : sourceOf? [⟨name, text⟩] (.file name) = some ⟨name, text⟩ := by simp [sourceOf?]
    rw [given, keyPlace?_of_source own, Option.map_eq_some_iff]
    constructor
    · rintro ⟨offset, found, rfl⟩
      exact ⟨text, offset, rfl, found, rfl⟩
    · rintro ⟨text', offset, same, found, rfl⟩
      obtain rfl := FileText.text.inj (Option.some.inj same)
      exact ⟨offset, found, rfl⟩

end

def fileInputs (workingDirectory path : String) (content : Option FileText)
    (env : List (String × String)) : List Input :=
  [.file (absolute workingDirectory path) content, .environment env]

def FileAtFault (inputs : List Input) : Prop :=
  ∃ fault file, load inputs = .error (.unusable fault (.file file))

/-- The fault is a key that is not known, and the key is found in the text. -/
def StrayIn (content : Option FileText) (fault : Decode.Fault) (key : String) (offset : Nat) :
    Prop :=
  ∃ known text, fault.problem = .unknownField key known ∧ content = some (.text text) ∧
    KeySearch.offset? text fault.path key = some offset

def StrayKey (workingDirectory path : String) (content : Option FileText)
    (env : List (String × String)) (key : String) (offset : Nat) : Prop :=
  ∃ fault file, load (fileInputs workingDirectory path content env) =
    .error (.unusable fault (.file file)) ∧ StrayIn content fault key offset

structure NamedEitherWay (workingDirectory path : String) (content : Option FileText)
    (env : List (String × String)) (relative full : Except (List Diagnostic) Settings) : Prop where
  accepted : ∀ s, relative = .ok s ↔ full = .ok s
  /-- By its relative name no key of a file has a place. -/
  ofFile : FileAtFault (fileInputs workingDirectory path content env) →
    relative = full.mapError (List.map .unplaced)
  elsewhere : ¬FileAtFault (fileInputs workingDirectory path content env) →
    relative = full.mapError (List.map (.inText path))
  stray : ∀ key offset, StrayKey workingDirectory path content env key offset →
    ∃ d, full = .error [d] ∧ relative = .error [d.unplaced] ∧
      d.place? = some ⟨absolute workingDirectory path, offset, key.utf8ByteSize⟩
  same_iff : SameButNames relative full ↔
    ¬∃ key offset, StrayKey workingDirectory path content env key offset

section
variable {workingDirectory path : String} (rooted : FileTree.isAbsolute workingDirectory = true)
  (relative : FileTree.isAbsolute path = false)
include rooted relative

theorem isAbsolute_absolute : FileTree.isAbsolute (absolute workingDirectory path) = true :=
  (FileTree.isAbsolute_join relative).trans rooted

theorem absolute_absolute :
    absolute workingDirectory (absolute workingDirectory path) = absolute workingDirectory path :=
  if_pos (isAbsolute_absolute rooted relative)

theorem absolute_ne : path ≠ absolute workingDirectory path := by
  intro same
  have both := isAbsolute_absolute rooted relative
  rw [← same, relative] at both
  cases both

end

section
variable {workingDirectory path : String} {content : Option FileText}
  {env : List (String × String)}

theorem file_at_fault {fault : Decode.Fault} {file : String}
    (failed : load (fileInputs workingDirectory path content env) =
      .error (.unusable fault (.file file))) : file = absolute workingDirectory path := by
  rcases unusable_origin failed with none | ⟨input, among, same⟩
  · cases none
  · simp only [fileInputs, List.mem_cons, List.not_mem_nil, or_false] at among
    rcases among with rfl | rfl
    · exact Origin.file.inj same
    · cases same

variable [PatternEngine] (rooted : FileTree.isAbsolute workingDirectory = true)
  (relative : FileTree.isAbsolute path = false)
include rooted relative

theorem loadFile_absolute :
    loadFile workingDirectory (absolute workingDirectory path) content env =
      loadChecked (fileInputs workingDirectory path content env)
        (sourceText? (absolute workingDirectory path) content) workingDirectory := by
  rw [loadFile, absolute_absolute rooted relative]
  rfl

theorem loadFile_of_file (ofFile : FileAtFault (fileInputs workingDirectory path content env)) :
    loadFile workingDirectory path content env =
      (loadFile workingDirectory (absolute workingDirectory path) content env).mapError
        (List.map .unplaced) := by
  rw [loadFile_absolute rooted relative]
  refine loadChecked_mapPlace fun fault origin failed names key => ?_
  obtain ⟨fault', file, failed'⟩ := ofFile
  obtain ⟨rfl, rfl⟩ := LoadFault.unusable.inj (Except.error.inj (failed.symm.trans failed'))
  obtain rfl := file_at_fault failed
  exact keyPlace?_of_other (absolute_ne rooted relative) names key

theorem loadFile_of_no_file
    (elsewhere : ¬FileAtFault (fileInputs workingDirectory path content env)) :
    loadFile workingDirectory path content env =
      (loadFile workingDirectory (absolute workingDirectory path) content env).mapError
        (List.map (.inText path)) := by
  rw [loadFile_absolute rooted relative]
  refine loadChecked_mapPlace fun fault origin failed names key => ?_
  refine keyPlace?_of_no_file (fun file same => elsewhere ?_) names key
  exact ⟨fault, file, same ▸ failed⟩

theorem loadFile_absolute_of_file {fault : Decode.Fault} {file : String}
    (failed : load (fileInputs workingDirectory path content env) =
      .error (.unusable fault (.file file))) :
    ∃ d, loadFile workingDirectory (absolute workingDirectory path) content env = .error [d] ∧
      ∀ place, d.place? = some place ↔ ∃ key offset, StrayIn content fault key offset ∧
        place = ⟨absolute workingDirectory path, offset, key.utf8ByteSize⟩ := by
  obtain rfl := file_at_fault failed
  rw [loadFile_absolute rooted relative, loadChecked, failed]
  refine ⟨_, rfl, fun place => ?_⟩
  rw [ofProblem_place?]
  cases problem : fault.problem with
  | unknownField key known =>
    rw [keyPlace?_of_own]
    constructor
    · rintro ⟨text, offset, given, found, rfl⟩
      exact ⟨key, offset, ⟨known, text, problem, given, found⟩, rfl⟩
    · rintro ⟨key', offset, ⟨known', text, same, given, found⟩, rfl⟩
      obtain ⟨rfl, rfl⟩ := Decode.Problem.unknownField.inj (problem.symm.trans same)
      exact ⟨text, offset, given, found, rfl⟩
  | _ =>
    refine iff_of_false nofun ?_
    rintro ⟨key, offset, ⟨known, text, same, -⟩, -⟩
    cases problem.symm.trans same

theorem loadFile_of_stray {key : String} {offset : Nat}
    (there : StrayKey workingDirectory path content env key offset) :
    ∃ d, loadFile workingDirectory (absolute workingDirectory path) content env = .error [d] ∧
      loadFile workingDirectory path content env = .error [d.unplaced] ∧
      d.place? = some ⟨absolute workingDirectory path, offset, key.utf8ByteSize⟩ := by
  obtain ⟨fault, file, failed, found⟩ := there
  obtain ⟨d, full, places⟩ := loadFile_absolute_of_file rooted relative failed
  refine ⟨d, full, ?_, (places _).mpr ⟨key, offset, found, rfl⟩⟩
  rw [loadFile_of_file rooted relative ⟨fault, file, failed⟩, full]
  rfl

theorem loadFile_of_no_stray
    (nothing : ¬∃ key offset, StrayKey workingDirectory path content env key offset) :
    SameButNames (loadFile workingDirectory path content env)
      (loadFile workingDirectory (absolute workingDirectory path) content env) := by
  by_cases ofFile : FileAtFault (fileInputs workingDirectory path content env)
  · obtain ⟨fault, file, failed⟩ := ofFile
    obtain ⟨d, full, places⟩ := loadFile_absolute_of_file rooted relative failed
    have nowhere : d.place? = none := by
      refine Option.eq_none_iff_forall_ne_some.mpr fun place there => nothing ?_
      obtain ⟨key, offset, found, -⟩ := (places place).mp there
      exact ⟨key, offset, fault, file, failed, found⟩
    rw [loadFile_of_file rooted relative ⟨fault, file, failed⟩, full]
    exact congrArg (fun d => Except.error [d.inText ""]) (Diagnostic.unplaced_of_nowhere nowhere)
  · rw [loadFile_of_no_file rooted relative ofFile]
    exact .inText path _

end

/-- The name of a file makes no difference but for the places of its own unknown keys. -/
theorem named_either_way [PatternEngine] {workingDirectory path : String}
    (rooted : FileTree.isAbsolute workingDirectory = true)
    (relative : FileTree.isAbsolute path = false) (content : Option FileText)
    (env : List (String × String)) : NamedEitherWay workingDirectory path content env
      (loadFile workingDirectory path content env)
      (loadFile workingDirectory (absolute workingDirectory path) content env) := by
  constructor
  case accepted =>
    intro s
    by_cases fault : FileAtFault (fileInputs workingDirectory path content env)
    · rw [loadFile_of_file rooted relative fault, mapError_eq_ok]
    · rw [loadFile_of_no_file rooted relative fault, mapError_eq_ok]
  case ofFile => exact loadFile_of_file rooted relative
  case elsewhere => exact loadFile_of_no_file rooted relative
  case stray => exact fun key offset => loadFile_of_stray rooted relative
  case same_iff =>
    refine ⟨?_, loadFile_of_no_stray rooted relative⟩
    rintro same ⟨key, offset, there⟩
    obtain ⟨d, full, bare, place⟩ := loadFile_of_stray rooted relative there
    have spans := same.spans
    rw [full, bare] at spans
    simp [Settings.spans, faultOf?, Diagnostic.place?_unplaced, place] at spans

open scoped Pattern

/-- The key of the file is seen by the absolute name only. -/
theorem named_either_way_misspelt :
    let content := some (FileText.text "[engine]\nfail_fats = true")
    FileTree.isAbsolute "/work" = true ∧ FileTree.isAbsolute "smelt.toml" = false ∧
      StrayKey "/work" "smelt.toml" content [] "fail_fats" 9 ∧
      ∃ d, d.place? = some ⟨"/work/smelt.toml", 9, 9⟩ ∧
        loadFile "/work" "/work/smelt.toml" content [] = .error [d] ∧
        loadFile "/work" "smelt.toml" content [] = .error [d.unplaced] := by
  intro content
  have failed : faultOf? (load (fileInputs "/work" "smelt.toml" content [])) =
      some (.unusable ⟨["engine", "fail_fats"], .unknownField "fail_fats" engineKeys⟩
        (.file "/work/smelt.toml")) := by decide +kernel
  have stray : StrayKey "/work" "smelt.toml" content [] "fail_fats" 9 :=
    ⟨_, _, faultOf?_eq_some.mp failed, _, _, rfl, rfl, by decide +kernel⟩
  have either : NamedEitherWay "/work" "smelt.toml" content [] _ _ :=
    named_either_way rfl rfl content []
  obtain ⟨d, full, bare, place⟩ := either.stray "fail_fats" 9 stray
  exact ⟨rfl, rfl, stray, d, place, full, bare⟩

/-- By its relative name the place of a key in the file is lost. -/
theorem relative_name_hides_key : ¬∀ (workingDirectory path : String) (content : Option FileText)
    (env : List (String × String)), FileTree.isAbsolute workingDirectory = true →
    FileTree.isAbsolute path = false →
      SameButNames (loadFile workingDirectory path content env)
        (loadFile workingDirectory (absolute workingDirectory path) content env) := by
  intro same
  have alike := same "/work" "smelt.toml" (some (.text "[engine]\nfail_fats = true")) [] rfl rfl
  exact absurd alike.spans (by decide +kernel)

end ClassForge.Settings
