import ClassForge.Settings.Model
import ClassForge.Succeeds
import ClassForge.Text.Quoted
import ClassForge.Toml.Document

/-!
Plugin manifests. A manifest is a document with a table `plugin`, or a list of that table's fields
in order; it names a plugin and its version and may describe it, select its types and mark it live.
-/
namespace ClassForge

structure Manifest where
  name : String
  version : String
  description : String
  author : Option String
  selector : Declared
  live : Bool
  deriving Repr, Inhabited

namespace Manifest

/-- The version of a plugin that is declared in the settings alone. -/
def declaredVersion : String := "0.1.0"

def ofDeclaration (p : PluginDeclaration) : Manifest where
  name := p.name
  version := declaredVersion
  description := p.description.getD ""
  author := none
  selector := p.selector
  live := p.live

inductive Fault where
  | missingField (name : String)
  | wrongType (actual expected : String)
  | unknownField (name : String)
  | unknownVariant (name : String)
  | wrongLength (length : Nat)
  | notStringOrTable
  | noElement
  | manyElements
  | notEmpty (kind : String)
  | notTable (kind : String)
  deriving DecidableEq, Repr

def fields : List String :=
  ["name", "version", "description", "author", "matcher", "live_initializer"]

private def oneOf (names : List String) : String :=
  "expected one of " ++ String.intercalate ", " (names.map fun n => "\x60" ++ n ++ "\x60")

namespace Fault

def message : Fault → String
  | .missingField name => s!"missing field \x60{name}\x60"
  | .wrongType actual expected => s!"invalid type: {actual}, expected {expected}"
  | .unknownField name => s!"unknown field \x60{name}\x60, " ++ oneOf fields
  | .unknownVariant name => s!"unknown variant \x60{name}\x60, " ++ oneOf Selector.keywords
  | .wrongLength n => s!"invalid length {n}, expected struct PluginSection with 6 elements"
  | .notStringOrTable => "wanted string or table"
  | .noElement => "wanted exactly 1 element, found 0 elements"
  | .manyElements => "wanted exactly 1 element, more than 1 element"
  | .notEmpty kind => "expected empty " ++ kind
  | .notTable kind => "expected table, found " ++ kind

end Fault

def describe : Value → String
  | .text s => "string " ++ Text.Quoted.quote s
  | .character c => "character \x60" ++ String.singleton c ++ "\x60"
  | .boolean b => if b then "boolean \x60true\x60" else "boolean \x60false\x60"
  | .integer n => s!"integer \x60{n}\x60"
  | .natural n => s!"integer \x60{n}\x60"
  | .real x => "floating point \x60" ++ x.renderWithPoint ++ "\x60"
  | .list _ => "sequence"
  | .date _ | .table _ => "map"

def kindOf : Value → String
  | .text _ | .character _ => "string"
  | .boolean _ => "boolean"
  | .integer _ | .natural _ => "integer"
  | .real _ => "float"
  | .date _ => "datetime"
  | .list _ => "array"
  | .table _ => "table"

def string : Value → Except Fault String
  | .text s => .ok s
  | v => .error (.wrongType (describe v) "a string")

def boolean : Value → Except Fault Bool
  | .boolean b => .ok b
  | v => .error (.wrongType (describe v) "a boolean")

/-- What may stand beside a keyword that takes no argument. -/
private def nothingIn (s : Declared) : Value → Except Fault Declared
  | .list [] => .ok s
  | .list _ => .error (.notEmpty "array")
  | .table [] => .ok s
  | .table _ => .error (.notEmpty "table")
  | v => .error (.notTable (kindOf v))

mutual

def selectorOf : Value → Except Fault Declared
  | .text "any" => .ok .everything
  | .text "none" => .ok .nothing
  | .text s =>
    if Selector.keywords.contains s then
      .error (.wrongType "unit variant" "newtype variant")
    else .error (.unknownVariant s)
  | .table [] => .error .noElement
  | .table [(key, v)] =>
    match key with
    | "any" => nothingIn .everything v
    | "none" => nothingIn .nothing v
    | "named" => (string v).map .named
    | "name_starts_with" => (string v).map .startsWith
    | "name_ends_with" => (string v).map .endsWith
    | "name_contains" => (string v).map .contains
    | "name_matches" => (string v).map .matching
    | "in_package" => (string v).map .inPackage
    | "and" => (selectorsOf v).map .allOf
    | "or" => (selectorsOf v).map .anyOf
    | "not" => (selectorOf v).map .except
    | _ => .error (.unknownVariant key)
  | .table _ => .error .manyElements
  | _ => .error .notStringOrTable

def selectorsOf : Value → Except Fault (List Declared)
  | .list items => selectorsOfAll items
  | v => .error (.wrongType (describe v) "a sequence")

def selectorsOfAll : List Value → Except Fault (List Declared)
  | [] => .ok []
  | v :: vs =>
    match selectorOf v with
    | .error f => .error f
    | .ok s => (selectorsOfAll vs).map (s :: ·)

end

private structure Draft where
  name : Option String := none
  version : Option String := none
  description : Option String := none
  author : Option String := none
  selector : Option Declared := none
  live : Option Bool := none

private def Draft.set (d : Draft) (key : String) (v : Value) : Except Fault Draft :=
  match key with
  | "name" => (string v).map fun s => { d with name := some s }
  | "version" => (string v).map fun s => { d with version := some s }
  | "description" => (string v).map fun s => { d with description := some s }
  | "author" => (string v).map fun s => { d with author := some s }
  | "matcher" => (selectorOf v).map fun s => { d with selector := some s }
  | "live_initializer" => (boolean v).map fun b => { d with live := some b }
  | _ => .error (.unknownField key)

private def Draft.finish (d : Draft) (name version : String) : Manifest where
  name := name
  version := version
  description := d.description.getD ""
  author := d.author
  selector := d.selector.getD .everything
  live := d.live.getD false

private def fromEntries (entries : Value.Entries) : Except Fault Manifest := do
  let d ← entries.foldlM (fun (d : Draft) (key, v) => d.set key v) {}
  match d.name, d.version with
  | none, _ => .error (.missingField "name")
  | _, none => .error (.missingField "version")
  | some name, some version => return d.finish name version

private theorem Draft.set_selected {d d' : Draft} {key : String} {v : Value} (s : Declared)
    (other : key ≠ "matcher") (put : d.set key v = .ok d') :
    Draft.set { d with selector := some s } key v = .ok { d' with selector := some s } := by
  unfold Draft.set at put ⊢
  split at put <;> first
    | exact absurd rfl other
    | cases put
    | (obtain ⟨x, read, rfl⟩ := map_succeeds put; simp [read, Except.map])

/-- A list must reach to the author; what follows it may be left out. -/
private def fromItems (items : List Value) : Except Fault Manifest := do
  let d ← (fields.zip items).foldlM (fun (d : Draft) (key, v) => d.set key v) {}
  match d.name, d.version with
  | none, _ => .error (.wrongLength 0)
  | _, none => .error (.wrongLength 1)
  | some name, some version =>
    if items.length < 4 then .error (.wrongLength 3) else return d.finish name version

def ofValue : Value → Except Fault Manifest
  | .table entries => fromEntries entries
  | .list items => fromItems items
  | .date _ => .error (.unknownField Value.dateKey)
  | v => .error (.wrongType (describe v) "struct PluginSection")

/-- A section's selector is what its own field is read as, wherever it stands among the others. -/
theorem ofValue_selected {before after : Value.Entries} {v : Value} {s : Declared} {m : Manifest}
    (read : selectorOf v = .ok s) (once : "matcher" ∉ after.map (·.1))
    (others : ofValue (.table (before ++ after)) = .ok m) :
    ofValue (.table (before ++ ("matcher", v) :: after)) = .ok { m with selector := s } := by
  obtain ⟨d, drafted, finished⟩ := bind_succeeds others
  have selected := foldlM_insert (x := ("matcher", v)) ({ · with selector := some s })
    (fun d => by simp [Draft.set, read, Except.map])
    (fun e among d d' put => Draft.set_selected s
      (fun same => once (same ▸ List.mem_map_of_mem among)) put) drafted
  change (List.foldlM _ _ _ >>= _) = _
  rw [selected]
  change (match d.name, d.version with | none, _ => _ | _, none => _ | some _, some _ => _) = _
  split at finished
  · cases finished
  · cases finished
  · rename_i named numbered
    rw [named, numbered, ← Except.ok.inj finished]
    rfl

def ofDocument (entries : Value.Entries) : Except Fault Manifest :=
  match Value.lookup "plugin" entries with
  | some v => ofValue v
  | none => .error (.missingField "plugin")

/-- The manifest of a text. Name and version must not be empty. -/
def parse (text : String) : Except ConfigFault Manifest :=
  match Toml.parse text with
  | .error fault => .error (.manifestUnreadable (.document fault.message))
  | .ok entries =>
    match ofDocument entries with
    | .error fault => .error (.manifestUnreadable (.content fault.message))
    | .ok m =>
      if m.name.isEmpty then .error .manifestNameEmpty
      else if m.version.isEmpty then .error .manifestVersionEmpty
      else .ok m

end Manifest
end ClassForge
