import ClassForge.Manifest
import ClassForge.Settings.Decode
import Mathlib.Logic.Function.Basic

/-!
Selectors as values. A selector without an argument is its keyword alone, any other a table with the
keyword as its only key; members make a list. Manifests and declarations have readers of their own,
and the loader goes over a value before it is read: both readers find the selector again, and no two
selectors have the same value.
-/
namespace ClassForge.Selector
open Settings

mutual

def toValue : Declared → Value
  | .everything => .text "any"
  | .nothing => .text "none"
  | .named n => .table [("named", .text n)]
  | .startsWith s => .table [("name_starts_with", .text s)]
  | .endsWith s => .table [("name_ends_with", .text s)]
  | .contains p => .table [("name_contains", .text p)]
  | .matching p => .table [("name_matches", .text p)]
  | .inPackage p => .table [("in_package", .text p)]
  | .allOf ms => .table [("and", .list (toValues ms))]
  | .anyOf ms => .table [("or", .list (toValues ms))]
  | .except m => .table [("not", toValue m)]

def toValues : List Declared → List Value
  | [] => []
  | m :: ms => toValue m :: toValues ms

end

def argument? : Declared → Option Value
  | .everything | .nothing => none
  | .named s | .startsWith s | .endsWith s | .contains s | .matching s | .inPackage s =>
    some (.text s)
  | .allOf ms | .anyOf ms => some (.list (ms.map toValue))
  | .except m => some m.toValue

structure Kept (s : Declared) : Prop where
  form : s.toValue = s.argument?.elim (.text s.keyword) fun v => .table [(s.keyword, v)]
  manifest : Manifest.selectorOf s.toValue = .ok s
  declaration : Decode.selector s.toValue = .ok s
  /-- The loader hands the value on as it is. -/
  loaded : s.toValue.datesAsTables.sorted = s.toValue
  /-- In any section that is a manifest without it, at any place, the value gives the selector and
  nothing else. -/
  inManifest : ∀ before after m, "matcher" ∉ (before ++ after).map (·.1) →
    Manifest.ofValue (.table (before ++ after)) = .ok m →
    Manifest.ofValue (.table (before ++ ("matcher", s.toValue) :: after)) =
      .ok { m with selector := s }
  /-- So it does in any declaration. -/
  inDeclaration : ∀ before after p, "matcher" ∉ (before ++ after).map (·.1) →
    Decode.plugin (.table (before ++ after)) = .ok p →
    Decode.plugin (.table (before ++ ("matcher", s.toValue) :: after)) =
      .ok { p with selector := s }
  apart : ∀ t : Declared, t ≠ s → t.toValue ≠ s.toValue

theorem toValues_eq (ms : List Declared) : toValues ms = ms.map toValue := by
  induction ms with
  | nil => rfl
  | cons m ms ih => rw [toValues, ih, List.map_cons]

theorem toValue_eq (s : Declared) :
    s.toValue = s.argument?.elim (.text s.keyword) fun v => .table [(s.keyword, v)] := by
  cases s with
  | allOf ms | anyOf ms => rw [toValue, toValues_eq]; rfl
  | _ => rfl

mutual

theorem selectorOf_toValue : ∀ s : Declared, Manifest.selectorOf s.toValue = .ok s
  | .everything | .nothing | .named _ | .startsWith _ | .endsWith _ | .contains _ | .matching _
  | .inPackage _ => rfl
  | .allOf ms => congrArg (Except.map Selector.allOf) (selectorsOfAll_toValues ms)
  | .anyOf ms => congrArg (Except.map Selector.anyOf) (selectorsOfAll_toValues ms)
  | .except m => congrArg (Except.map Selector.except) (selectorOf_toValue m)

theorem selectorsOfAll_toValues : ∀ ms : List Declared,
    Manifest.selectorsOfAll (toValues ms) = .ok ms
  | [] => rfl
  | m :: ms => by
    rw [toValues, Manifest.selectorsOfAll, selectorOf_toValue m]
    exact congrArg (Except.map (m :: ·)) (selectorsOfAll_toValues ms)

end

mutual

theorem selector_toValue : ∀ s : Declared, Decode.selector s.toValue = .ok s
  | .everything | .nothing | .named _ | .startsWith _ | .endsWith _ | .contains _ | .matching _
  | .inPackage _ => rfl
  | .allOf ms =>
    congrArg (Decode.under "and" <| Except.map Selector.allOf ·) (selectorsFrom_toValues 0 ms)
  | .anyOf ms =>
    congrArg (Decode.under "or" <| Except.map Selector.anyOf ·) (selectorsFrom_toValues 0 ms)
  | .except m =>
    congrArg (Decode.under "not" <| Except.map Selector.except ·) (selector_toValue m)

theorem selectorsFrom_toValues : ∀ (i : Nat) (ms : List Declared),
    Decode.selectorsFrom i (toValues ms) = .ok ms
  | _, [] => rfl
  | i, m :: ms => by
    rw [toValues, Decode.selectorsFrom, selector_toValue m]
    exact congrArg (Except.map (m :: ·)) (selectorsFrom_toValues (i + 1) ms)

end

mutual

theorem loaded_toValue : ∀ s : Declared, s.toValue.datesAsTables.sorted = s.toValue
  | .everything | .nothing | .named _ | .startsWith _ | .endsWith _ | .contains _ | .matching _
  | .inPackage _ => rfl
  | .allOf ms => congrArg (fun vs => Value.table [("and", .list vs)]) (loaded_toValues ms)
  | .anyOf ms => congrArg (fun vs => Value.table [("or", .list vs)]) (loaded_toValues ms)
  | .except m => congrArg (fun v => Value.table [("not", v)]) (loaded_toValue m)

theorem loaded_toValues : ∀ ms : List Declared,
    Value.sortedItems (Value.datesInItems (toValues ms)) = toValues ms
  | [] => rfl
  | m :: ms => congrArg₂ List.cons (loaded_toValue m) (loaded_toValues ms)

end

theorem toValue_injective : Function.Injective toValue := by
  intro s t same
  have read : Manifest.selectorOf s.toValue = .ok t := same ▸ selectorOf_toValue t
  exact Except.ok.inj ((selectorOf_toValue s).symm.trans read)

/-- A selector of any depth is what its value is read as, alone and among other fields, and no other
selector has this value. The depth matters only where the value is to be read from a text: there it
is refused when arrays and tables are nested as deeply as `Toml.depthLimit` says, eighty levels. -/
theorem values_read_back (s : Declared) : Kept s where
  form := toValue_eq s
  manifest := selectorOf_toValue s
  declaration := selector_toValue s
  loaded := loaded_toValue s
  inManifest _ _ _ fresh others := Manifest.ofValue_selected (selectorOf_toValue s)
    (fun again => fresh (List.map_append ▸ List.mem_append_right _ again)) others
  inDeclaration _ _ _ fresh others := Decode.plugin_selected (selector_toValue s)
    (fun again => fresh (List.map_append ▸ List.mem_append_right _ again)) others
  apart _ other := toValue_injective.ne other

theorem values_read_back_nested :
    let s : Declared := .allOf [.inPackage "com.example", .except (.named "com.example.Main")]
    Manifest.ofDocument [("plugin", .table [("name", .text "nested"), ("matcher", s.toValue),
        ("version", .text "1.0.0")])] = .ok ⟨"nested", "1.0.0", "", none, s, false⟩ ∧
      Decode.plugin (.table [("enabled", .boolean false), ("matcher", s.toValue),
        ("name", .text "nested")]) = .ok { name := "nested", enabled := false, selector := s } :=
  ⟨(values_read_back _).inManifest [("name", .text "nested")] [("version", .text "1.0.0")] _
      (by decide) rfl,
    (values_read_back _).inDeclaration [("enabled", .boolean false)] [("name", .text "nested")] _
      (by decide) rfl⟩

end ClassForge.Selector
