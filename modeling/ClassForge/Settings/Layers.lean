import ClassForge.Settings.Decode
import ClassForge.Settings.Environment
import ClassForge.Text.Utf8
import ClassForge.Toml.Document

/-!
Settings come in layers: the values that hold by themselves, files, a text, and the environment. A
later layer is merged into those before it, table by table. What cannot be read in any layer is
reported for all of them at once; what cannot be used is reported for the merged value.
-/
namespace ClassForge.Settings

inductive Origin where
  | builtIn
  | inline
  | file (path : String)
  | environment
  deriving DecidableEq, Repr

structure Layer where
  origin : Origin
  entries : Value.Entries

/-- The content of a file, if it is text. -/
inductive FileText where
  | text (s : String)
  | undecodable
  deriving DecidableEq, Repr

def FileText.ofBytes (bytes : Bytes) : FileText :=
  match Text.Utf8.decode? bytes with
  | some cs => .text (String.ofList cs)
  | none => .undecodable

/-- Where a layer is read from. A file that is not there makes an empty layer. -/
inductive Input where
  | inline (text : String)
  | file (path : String) (content : Option FileText)
  | environment (env : List (String × String))

inductive ReadFault where
  | malformed (fault : Toml.Fault)
  | undecodable (path : String)
  deriving DecidableEq, Repr

inductive LoadFault where
  | unreadable (faults : List ReadFault)
  /-- The layer is the one that the faulty value comes from. -/
  | unusable (fault : Decode.Fault) (origin : Origin)
  deriving DecidableEq, Repr

/-- The settings that hold where no layer says otherwise. -/
def builtIn : Layer :=
  let s : Settings := {}
  ⟨.builtIn, [
    ("engine", .table [
      ("class_file_version", .text s.engine.formatVersion),
      ("entry_point", .text s.engine.entryPoint.keyword),
      ("fail_fast", .boolean s.engine.failFast),
      ("fail_on_live_initializer", .boolean s.engine.failOnLiveInitializer),
      ("notify_on_abort", .boolean s.engine.notifyOnAbort)]),
    ("logging", .table [("level", .text s.logging.level)]),
    ("plugins", .list []),
    ("source", .table [("skip_prefixes", .list (s.source.skipPrefixes.map .text))])]⟩

def Layer.Keyed (layer : Layer) : Prop := (Value.table layer.entries).Keyed

theorem builtIn_keyed : builtIn.Keyed := by
  refine .table (by decide) fun e member => ?_
  simp only [builtIn, List.mem_cons, List.not_mem_nil, or_false] at member
  rcases member with rfl | rfl | rfl | rfl
  · exact .table (by decide) (by simp [Value.Keyed.text, Value.Keyed.boolean])
  · exact .table (by decide) (by simp [Value.Keyed.text])
  · exact .list (List.forall_mem_nil _)
  · exact .table (by decide) (List.forall_mem_singleton.mpr
      (.list (List.forall_mem_map.mpr fun _ _ => .text _)))

private def parsed (origin : Origin) (text : String) : Except ReadFault Layer :=
  match Toml.parse text with
  | .ok entries => .ok ⟨origin, Value.datesInEntries entries⟩
  | .error fault => .error (.malformed fault)

def Input.layer : Input → Except ReadFault Layer
  | .inline text => parsed .inline text
  | .file path none => .ok ⟨.file path, []⟩
  | .file path (some (.text s)) => parsed (.file path) s
  | .file path (some .undecodable) => .error (.undecodable path)
  | .environment env => .ok ⟨.environment, Environment.entries env⟩

theorem Input.layer_keyed {input : Input} {layer : Layer} (read : input.layer = .ok layer) :
    layer.Keyed := by
  have document {origin : Origin} {text : String} (read : parsed origin text = .ok layer) :
      layer.Keyed := by
    unfold parsed at read
    split at read
    · obtain rfl := Except.ok.inj read
      exact (Toml.parse_keyed ‹_›).datesAsTables
    · cases read
  unfold Input.layer at read
  split at read
  · exact document read
  · exact Except.ok.inj read ▸ .nil
  · exact document read
  · cases read
  · exact Except.ok.inj read ▸ Environment.entries_keyed _

def Input.origin : Input → Origin
  | .inline _ => .inline
  | .file path _ => .file path
  | .environment _ => .environment

theorem Input.layer_origin {input : Input} {layer : Layer} (read : input.layer = .ok layer) :
    layer.origin = input.origin := by
  have document {origin : Origin} {text : String} (read : parsed origin text = .ok layer) :
      layer.origin = origin := by
    unfold parsed at read
    split at read
    · exact Except.ok.inj read ▸ rfl
    · cases read
  unfold Input.layer at read
  split at read
  · exact document read
  · exact Except.ok.inj read ▸ rfl
  · exact document read
  · cases read
  · exact Except.ok.inj read ▸ rfl

def ReadAs (inputs : List Input) (layers : List Layer) : Prop :=
  inputs.map Input.layer = layers.map .ok

theorem ReadAs.input {inputs : List Input} {layers : List Layer} (read : ReadAs inputs layers)
    {layer : Layer} (among : layer ∈ layers) : ∃ input ∈ inputs, input.layer = .ok layer := by
  have listed : Except.ok layer ∈ inputs.map Input.layer := read ▸ List.mem_map_of_mem among
  exact List.mem_map.mp listed

theorem ReadAs.keyed {inputs : List Input} {layers : List Layer} (read : ReadAs inputs layers) :
    ∀ layer ∈ layers, layer.Keyed := by
  intro layer among
  obtain ⟨input, -, given⟩ := read.input among
  exact Input.layer_keyed given

private def separated (inputs : List Input) : List ReadFault × List Layer :=
  inputs.foldr (fun input (faults, layers) =>
    match input.layer with
    | .ok layer => (faults, layer :: layers)
    | .error fault => (fault :: faults, layers)) ([], [])

private theorem separated_readable {inputs : List Input} {layers : List Layer}
    (readable : separated inputs = ([], layers)) : ReadAs inputs layers := by
  induction inputs generalizing layers with
  | nil =>
    obtain ⟨-, rfl⟩ := Prod.mk.inj readable
    rfl
  | cons input rest ih =>
    rw [separated, List.foldr_cons] at readable
    cases read : input.layer with
    | ok layer =>
      simp only [read] at readable
      obtain ⟨sound, rfl⟩ := Prod.mk.inj readable
      rw [ReadAs, List.map_cons, List.map_cons, read]
      exact congrArg (Except.ok layer :: ·) (ih (Prod.ext sound rfl))
    | error fault =>
      simp only [read] at readable
      cases (Prod.mk.inj readable).1

def merged (layers : List Layer) : Value.Entries :=
  layers.foldl (fun acc layer => Value.mergeEntries acc layer.entries) []

theorem merged_eq (layers : List Layer) :
    merged layers = (layers.map Layer.entries).foldl Value.mergeEntries [] := by
  rw [merged, List.foldl_map]

/-- The last layer that has a value at a path. -/
def originAt (layers : List Layer) (path : List String) : Origin :=
  match layers.reverse.find? fun layer => ((Value.table layer.entries).at? path).isSome with
  | some layer => layer.origin
  | none => .builtIn

def load (inputs : List Input) : Except LoadFault Settings :=
  match separated inputs with
  | ([], layers) =>
    let layers := builtIn :: layers
    match Decode.settings (Value.sortedEntries (merged layers)) with
    | .ok s => .ok s
    | .error fault => .error (.unusable fault (originAt layers fault.path))
  | (faults, _) => .error (.unreadable faults)

theorem load_succeeds {inputs : List Input} {s : Settings} (loaded : load inputs = .ok s) :
    ∃ layers, ReadAs inputs layers ∧
      Decode.settings (Value.sortedEntries (merged (builtIn :: layers))) = .ok s := by
  unfold load at loaded
  split at loaded
  · rename_i layers readable
    refine ⟨layers, separated_readable readable, ?_⟩
    dsimp only at loaded
    split at loaded
    · exact Except.ok.inj loaded ▸ ‹_›
    · cases loaded
  · cases loaded

theorem load_unusable {inputs : List Input} {fault : Decode.Fault} {origin : Origin}
    (failed : load inputs = .error (.unusable fault origin)) :
    ∃ layers, ReadAs inputs layers ∧ origin = originAt (builtIn :: layers) fault.path := by
  unfold load at failed
  split at failed
  · rename_i layers readable
    refine ⟨layers, separated_readable readable, ?_⟩
    dsimp only at failed
    split at failed
    · cases failed
    · obtain ⟨rfl, rfl⟩ := LoadFault.unusable.inj (Except.error.inj failed)
      rfl
  · cases failed

theorem originAt_among (layers : List Layer) (path : List String) :
    originAt layers path = .builtIn ∨ ∃ layer ∈ layers, originAt layers path = layer.origin := by
  unfold originAt
  split
  · rename_i layer found
    exact .inr ⟨layer, List.mem_reverse.mp (List.mem_of_find?_eq_some found), rfl⟩
  · exact .inl rfl

theorem unusable_origin {inputs : List Input} {fault : Decode.Fault} {origin : Origin}
    (failed : load inputs = .error (.unusable fault origin)) :
    origin = .builtIn ∨ ∃ input ∈ inputs, origin = input.origin := by
  obtain ⟨layers, read, rfl⟩ := load_unusable failed
  rcases originAt_among (builtIn :: layers) fault.path with none | ⟨layer, among, same⟩
  · exact .inl none
  · rcases List.mem_cons.mp among with rfl | among
    · exact .inl same
    · obtain ⟨input, listed, given⟩ := read.input among
      exact .inr ⟨input, listed, same.trans (Input.layer_origin given)⟩

end ClassForge.Settings
