import ClassForge.Text.Blank
import ClassForge.Text.Cut
import ClassForge.Value

/-!
Settings from environment variables. A variable counts when its name starts with the mark, in
letters of any case; what follows is the path of the setting, with `engine_`, `logging_` and
`source_` in front of a setting of these sections. A path that begins with the name of the plugins
does not count. A text that is not a value as a whole stands for itself.
-/
namespace ClassForge.Settings.Environment
open Number

def mark : String := "smelt_"

private def isSpace (c : Char) : Bool :=
  c == ' ' || c == '\t' || c == '\n' || c == '\r' || c == '\x0c'

private def skipSpaces (cs : List Char) : List Char := cs.dropWhile isSpace

private def isSeparator (c : Char) : Bool :=
  c == ',' || c == '\x7b' || c == '\x7d' || c == '[' || c == ']'

private def isKeyChar (c : Char) : Bool := c.isAlphanum || c == '_' || c == '-'

private def charOfDigits? (cs : List Char) : Option Char := do
  let n ← (readDigits? 16 cs).map (value 16)
  if n.isValidChar then some (Char.ofNat n) else none

private def quoted? : Nat → List Char → Option (List Char × List Char)
  | 0, _ => none
  | fuel + 1, cs =>
    let more (c : Char) (rest : List Char) : Option (List Char × List Char) :=
      (quoted? fuel rest).map fun (text, left) => (c :: text, left)
    match cs with
    | [] => none
    | '"' :: rest => some ([], rest)
    | '\\' :: rest =>
      match rest with
      | 'b' :: r => more '\x08' r
      | 'f' :: r => more '\x0c' r
      | 'n' :: r => more '\n' r
      | 'r' :: r => more '\r' r
      | 't' :: r => more '\t' r
      | '"' :: r => more '"' r
      | '\\' :: r => more '\\' r
      | 'u' :: r =>
        if r.length < 4 then none else (charOfDigits? (r.take 4)).bind fun c => more c (r.drop 4)
      | 'U' :: r =>
        if r.length < 8 then none else (charOfDigits? (r.take 8)).bind fun c => more c (r.drop 8)
      | _ => none
    | c :: rest => if c == '\t' || (32 ≤ c.toNat && c.toNat != 127) then more c rest else none

def ofWord (cs : List Char) : Value :=
  let word := Text.trim cs
  let asReal := if word.contains '.' then Binary64.read? word else none
  match asReal, readUnsigned? 10 0xFFFFFFFFFFFFFFFF word, word with
  | some x, _, _ => .real x
  | none, some n, _ => .natural n
  | none, none, '-' :: ds =>
    match readDigits? 10 ds with
    | some (d :: rest) =>
      let n := value 10 (d :: rest)
      if n ≤ 0x8000000000000000 then .integer (-(n : Int)) else .text (String.ofList word)
    | _ => .text (String.ofList word)
  | _, _, _ => .text (String.ofList word)

private theorem ofWord_keyed (cs : List Char) : (ofWord cs).Keyed := by
  unfold ofWord
  dsimp only
  split
  · exact .real _
  · exact .natural _
  · split
    · split
      · exact .integer _
      · exact .text _
    · exact .text _
  · exact .text _

private def key? (cs : List Char) : Option (String × List Char) :=
  match cs with
  | '"' :: rest => (quoted? cs.length rest).map fun (text, left) => (String.ofList text, left)
  | _ =>
    let word := cs.takeWhile isKeyChar
    if word.isEmpty then none else some (String.ofList word, cs.dropWhile isKeyChar)

private abbrev ValueReader := List Char → Option (Value × List Char)

private def items? (value? : ValueReader) : Nat → List Char → Option (List Value × List Char)
  | 0, _ => none
  | fuel + 1, cs =>
    match cs with
    | ']' :: left => some ([], left)
    | _ => do
      let (v, left) ← value? cs
      match left with
      | ',' :: left =>
        let (vs, left) ← items? value? fuel left
        return (v :: vs, left)
      | ']' :: left => return ([v], left)
      | _ => none

private theorem items_keyed {value? : ValueReader}
    (keyed : ∀ {cs v left}, value? cs = some (v, left) → v.Keyed) {fuel : Nat}
    {cs left : List Char} {vs : List Value} (read : items? value? fuel cs = some (vs, left)) :
    ∀ v ∈ vs, v.Keyed := by
  induction fuel generalizing cs vs left with
  | zero => cases read
  | succ fuel ih =>
    unfold items? at read
    split at read
    · obtain ⟨rfl, -⟩ := Prod.mk.inj (Option.some.inj read)
      exact List.forall_mem_nil _
    · obtain ⟨⟨v, rest⟩, first, read⟩ := Option.bind_eq_some_iff.mp read
      dsimp only at read
      split at read
      · obtain ⟨⟨others, rest⟩, later, read⟩ := Option.bind_eq_some_iff.mp read
        obtain ⟨rfl, -⟩ := Prod.mk.inj (Option.some.inj read)
        exact List.forall_mem_cons.mpr ⟨keyed first, ih later⟩
      · obtain ⟨rfl, -⟩ := Prod.mk.inj (Option.some.inj read)
        exact List.forall_mem_singleton.mpr (keyed first)
      · cases read

private def pairs? (value? : ValueReader) :
    Nat → Value.Entries → List Char → Option (Value.Entries × List Char)
  | 0, _, _ => none
  | fuel + 1, done, cs =>
    match cs with
    | '\x7d' :: left => some (done, left)
    | _ => do
      let (key, left) ← key? (skipSpaces cs)
      let '=' :: left := skipSpaces left | none
      let (v, left) ← value? left
      let done := Value.put key v done
      match left with
      | ',' :: left => pairs? value? fuel done left
      | '\x7d' :: left => return (done, left)
      | _ => none

private theorem pairs_keyed {value? : ValueReader}
    (keyed : ∀ {cs v left}, value? cs = some (v, left) → v.Keyed) {fuel : Nat}
    {done es : Value.Entries} {cs left : List Char} (earlier : (Value.table done).Keyed)
    (read : pairs? value? fuel done cs = some (es, left)) : (Value.table es).Keyed := by
  induction fuel generalizing done cs with
  | zero => cases read
  | succ fuel ih =>
    unfold pairs? at read
    split at read
    · obtain ⟨rfl, -⟩ := Prod.mk.inj (Option.some.inj read)
      exact earlier
    · obtain ⟨⟨key, rest⟩, -, read⟩ := Option.bind_eq_some_iff.mp read
      dsimp only at read
      split at read
      · obtain ⟨⟨v, rest⟩, given, read⟩ := Option.bind_eq_some_iff.mp read
        have grown := earlier.put (k := key) (keyed given)
        dsimp only at read
        split at read
        · exact ih grown read
        · obtain ⟨rfl, -⟩ := Prod.mk.inj (Option.some.inj read)
          exact grown
        · cases read
      · cases read

private def value? : Nat → List Char → Option (Value × List Char)
  | 0, _ => none
  | fuel + 1, cs =>
    let bare : Option (Value × List Char) := match skipSpaces cs with
      | 't' :: 'r' :: 'u' :: 'e' :: left => some (.boolean true, left)
      | 'f' :: 'a' :: 'l' :: 's' :: 'e' :: left => some (.boolean false, left)
      | '\x7b' :: left =>
        (pairs? (value? fuel) cs.length [] left).map fun (es, left) => (.table es, left)
      | '[' :: left =>
        (items? (value? fuel) cs.length left).map fun (vs, left) => (.list vs, left)
      | '"' :: left =>
        (quoted? cs.length left).map fun (text, left) => (.text (String.ofList text), left)
      | '\'' :: c :: '\'' :: left => some (.character c, left)
      | '\'' :: _ => none
      | cs => some (ofWord (cs.takeWhile (!isSeparator ·)), cs.dropWhile (!isSeparator ·))
    bare.map fun (v, left) => (v, skipSpaces left)

private theorem value_keyed {fuel : Nat} {cs left : List Char} {v : Value}
    (read : value? fuel cs = some (v, left)) : v.Keyed := by
  induction fuel generalizing cs v left with
  | zero => cases read
  | succ fuel ih =>
    obtain ⟨⟨w, rest⟩, found, same⟩ := Option.map_eq_some_iff.mp read
    obtain ⟨rfl, -⟩ := Prod.mk.inj same
    split at found
    · exact (Prod.mk.inj (Option.some.inj found)).1 ▸ .boolean true
    · exact (Prod.mk.inj (Option.some.inj found)).1 ▸ .boolean false
    · obtain ⟨⟨es, rest⟩, pairs, same⟩ := Option.map_eq_some_iff.mp found
      exact (Prod.mk.inj same).1 ▸ pairs_keyed ih .nil pairs
    · obtain ⟨⟨vs, rest⟩, items, same⟩ := Option.map_eq_some_iff.mp found
      exact (Prod.mk.inj same).1 ▸ .list (items_keyed ih items)
    · obtain ⟨⟨text, rest⟩, -, same⟩ := Option.map_eq_some_iff.mp found
      exact (Prod.mk.inj same).1 ▸ .text _
    · exact (Prod.mk.inj (Option.some.inj found)).1 ▸ .character _
    · cases found
    · exact (Prod.mk.inj (Option.some.inj found)).1 ▸ ofWord_keyed _

def ofText (text : String) : Value :=
  match value? (text.length + 1) text.toList with
  | some (v, []) => v
  | _ => .text text

theorem ofText_keyed (text : String) : (ofText text).Keyed := by
  unfold ofText
  split
  · exact value_keyed ‹_›
  · exact .text text

private def lower (cs : List Char) : List Char := cs.map Char.toLower

/-- Behind a section the mark between it and its setting becomes a dot. -/
private def dotted (rest : List Char) : List Char :=
  ["engine", "logging", "source"].foldl (fun cs section_ =>
    Text.substituteFirst (section_.toList ++ ['_']) (section_.toList ++ ['.']) cs) rest

/-- What stands behind the mark in the name of a variable, in small letters. -/
def behindMark? (variable_ : String) : Option (List Char) :=
  mark.toList.isPrefixOf? (lower (Text.trim variable_.toList))

/-- The path of the setting that a variable is for. What is left of its name once the sections are
set apart is trimmed again, and a path with an empty key is none. -/
def path? (variable_ : String) : Option (List String) :=
  (behindMark? variable_).bind fun rest =>
    let keys := Text.pieces '.' (Text.trim (dotted rest))
    if "plugins".toList.isPrefixOf rest || keys.any List.isEmpty then none
    else some (keys.map String.ofList)

theorem path_cut {variable_ : String} {path : List String} (given : path? variable_ = some path) :
    ∃ rest, behindMark? variable_ = some rest ∧ ¬"plugins".toList <+: rest ∧
      (Text.pieces '.' (Text.trim (dotted rest))).map String.ofList = path := by
  obtain ⟨rest, behind, given⟩ := Option.bind_eq_some_iff.mp given
  dsimp only at given
  split at given
  · cases given
  · rename_i passed
    refine ⟨rest, behind, fun starts => passed ?_, Option.some.inj given⟩
    exact Bool.or_eq_true_iff.mpr (.inl (List.isPrefixOf_iff_prefix.mpr starts))

theorem path_ne_nil {variable_ : String} : path? variable_ ≠ some [] := by
  intro none_
  obtain ⟨rest, -, -, cut⟩ := path_cut none_
  exact Text.pieces_ne_nil '.' (Text.trim (dotted rest)) (List.map_eq_nil_iff.mp cut)

/-- A path begins at the plugins only where blanks keep their name from the mark: no substitution
writes it, and a name right behind the mark is left alone. -/
theorem path_head_plugins {variable_ : String} {path : List String}
    (declared : path? variable_ = some ("plugins" :: path)) :
    ∃ rest, behindMark? variable_ = some rest ∧ "plugins".toList <+: Text.trimLeft rest ∧
      ¬"plugins".toList <+: rest := by
  obtain ⟨rest, behind, apart, cut⟩ := path_cut declared
  refine ⟨rest, behind, ?_, apart⟩
  obtain ⟨first, others, pieces, named, -⟩ := List.map_eq_cons_iff.mp cut
  have starts : "plugins".toList <+: Text.trim (dotted rest) := by
    rw [← named, String.toList_ofList]
    exact Text.prefix_of_pieces pieces
  obtain ⟨blanks, blank, whole⟩ := Text.exists_blanks_append_trimLeft (dotted rest)
  have before : blanks ++ "plugins".toList <+: dotted rest := by
    rw [whole]
    exact (List.prefix_append_right_inj blanks).mpr (starts.trans (Text.trim_prefix_trimLeft _))
  have undotted : '.' ∉ blanks ++ "plugins".toList := by
    intro member
    rcases List.mem_append.mp member with among | among
    · exact absurd (blank '.' among) (by decide)
    · exact absurd among (by decide)
  have early : blanks ++ "plugins".toList <+: rest :=
    Text.prefix_of_substituteFirst undotted (Text.prefix_of_substituteFirst undotted
      (Text.prefix_of_substituteFirst undotted before))
  obtain ⟨more, rfl⟩ := early
  rw [List.append_assoc, Text.trimLeft_append_of_blank blank]
  exact ⟨more, rfl⟩

def nested (v : Value) (path : List String) : Value :=
  path.foldr (fun key inner => .table [(key, inner)]) v

theorem nested_keyed {v : Value} (h : v.Keyed) (path : List String) : (nested v path).Keyed := by
  induction path with
  | nil => exact h
  | cons key path ih => exact .table (by simp) (List.forall_mem_singleton.mpr ih)

/-- The settings of a variable, unless it is left alone. -/
def given? (variable_ : String × String) : Option Value.Entries :=
  match path? variable_.1 with
  | some (key :: path) => some [(key, nested (ofText variable_.2) path)]
  | _ => none

theorem given_keyed {variable_ : String × String} {es : Value.Entries}
    (given : given? variable_ = some es) : (Value.table es).Keyed := by
  unfold given? at given
  split at given
  · rename_i key path _
    exact Option.some.inj given ▸ nested_keyed (ofText_keyed variable_.2) (key :: path)
  · cases given

theorem tables_keyed (env : List (String × String)) :
    ∀ es ∈ env.filterMap given?, (Value.table es).Keyed := by
  intro es among
  obtain ⟨variable_, -, given⟩ := List.mem_filterMap.mp among
  exact given_keyed given

/-- The settings of all variables, later ones merged into earlier ones. -/
def entries (env : List (String × String)) : Value.Entries :=
  (env.filterMap given?).foldl Value.mergeEntries []

theorem entries_keyed (env : List (String × String)) : (Value.table (entries env)).Keyed :=
  .merged .nil (tables_keyed env)

end ClassForge.Settings.Environment
