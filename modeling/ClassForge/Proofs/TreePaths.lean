import ClassForge.Proofs.TreeWrites
import ClassForge.Source.Directory

/-!
Paths of the files below a directory. The components of such a path, put after the place of the
directory, are where the file stands; a path that starts with one to the directory leads there.
-/
namespace ClassForge.FileTree

/-- The pieces of a path between its slashes, empty ones too. -/
def components (path : String) : List String := (Text.pieces '/' path.toList).map String.ofList

theorem components_injective {path path' : String} (same : components path = components path') :
    path = path' := by
  have pieces : Text.pieces '/' path.toList = Text.pieces '/' path'.toList :=
    (List.map_inj_right fun _ _ => String.ofList_inj.mp).mp same
  have texts := congrArg (Text.joined ['/']) pieces
  rw [Text.joined_pieces, Text.joined_pieces] at texts
  exact String.toList_injective texts

theorem components_of_undivided {name : String} (undivided : '/' ∉ name.toList) :
    components name = [name] := by
  simp [components, Text.pieces_of_absent '/' undivided]

theorem components_below {name : String} (undivided : '/' ∉ name.toList) (path : String) :
    components (name ++ "/" ++ path) = name :: components path := by
  have cut : (name ++ "/" ++ path).toList = name.toList ++ '/' :: path.toList := by simp
  rw [components, cut, Text.pieces_append, Text.pieces_of_absent '/' undivided]
  simp [components]

structure EntryName (name : String) : Prop where
  some : name ≠ ""
  notCurrent : name ≠ "."
  notParent : name ≠ ".."
  undivided : '/' ∉ name.toList

/-- In every directory of the tree the entries have proper names, each its own. -/
inductive WellFormed : FileTree → Prop where
  | file (content : Bytes) : WellFormed (.file content)
  | link (target : String) : WellFormed (.link target)
  | directory {entries : List (String × FileTree)} (named : ∀ e ∈ entries, EntryName e.1)
      (distinct : (entries.map (·.1)).Nodup) (inside : ∀ e ∈ entries, WellFormed e.2) :
      WellFormed (.directory entries)

theorem nodeAt?_append (t : FileTree) (place more : List String) :
    t.nodeAt? (place ++ more) = (t.nodeAt? place).bind (nodeAt? · more) := by
  induction place generalizing t with
  | nil => rfl
  | cons name rest ih =>
    rw [List.cons_append, nodeAt?, nodeAt?]
    cases t.child? name with
    | none => rfl
    | some child => exact ih child

theorem child?_of_mem {entries : List (String × FileTree)} (distinct : (entries.map (·.1)).Nodup)
    {e : String × FileTree} (member : e ∈ entries) : (directory entries).child? e.1 = some e.2 := by
  induction entries with
  | nil => nomatch member
  | cons first rest ih =>
    obtain ⟨fresh, later⟩ := List.nodup_cons.mp distinct
    rcases List.mem_cons.mp member with rfl | member
    · simp [child?]
    · have other : first.1 ≠ e.1 := fun same => fresh (List.mem_map.mpr ⟨e, member, same.symm⟩)
      simpa [child?, other] using ih later member

structure StandsIn (t : FileTree) (path : String) (content : Bytes) : Prop where
  named : ∀ c ∈ components path, EntryName c
  there : t.contentAt? (components path) = some content

theorem mem_filesOf {entries : List (String × FileTree)} {f : String × Bytes}
    (member : f ∈ filesOf entries) :
    ∃ e ∈ entries, e.2 = .file f.2 ∧ f.1 = e.1 ∨
      ∃ path, (path, f.2) ∈ e.2.files ∧ f.1 = e.1 ++ "/" ++ path := by
  induction entries with
  | nil => simp [filesOf] at member
  | cons first rest ih =>
    obtain ⟨name, node⟩ := first
    rw [filesOf.eq_def] at member
    rcases List.mem_append.mp member with here | later
    · refine ⟨(name, node), List.mem_cons_self, ?_⟩
      cases node with
      | file content => simp_all
      | link target => simp at here
      | directory inner =>
        obtain ⟨⟨path, content⟩, below, rfl⟩ := List.mem_map.mp here
        exact .inr ⟨path, below, rfl⟩
    · obtain ⟨e, among, found⟩ := ih later
      exact ⟨e, List.mem_cons_of_mem _ among, found⟩

theorem standsIn_of_mem {t : FileTree} (wellFormed : t.WellFormed) :
    ∀ f ∈ t.files, StandsIn t f.1 f.2 := by
  induction wellFormed with
  | file content => simp [files]
  | link target => simp [files]
  | @directory entries named distinct _ ih =>
    intro f member
    obtain ⟨e, among, found⟩ := mem_filesOf member
    have child := child?_of_mem distinct among
    have undivided := (named e among).undivided
    rcases found with ⟨isFile, called⟩ | ⟨path, below, called⟩
    · rw [isFile] at child
      rw [called]
      constructor
      · simpa [components_of_undivided undivided] using named e among
      · simp [components_of_undivided undivided, contentAt?, nodeAt?, child, content?]
    · obtain ⟨inner, there⟩ := ih e among _ below
      rw [called]
      constructor
      · simpa [components_below undivided] using ⟨named e among, inner⟩
      · simpa [components_below undivided, contentAt?, nodeAt?, child] using there

/-- The components that say something. -/
def parts (path : String) : List String := (components path).filter (!·.isEmpty)

theorem names_eq_parts (path : String) :
    ∃ ending, (ending = [] ∨ ending = ["."]) ∧ names path = parts path ++ ending := by
  rw [names]
  split
  · exact ⟨["."], .inr rfl, rfl⟩
  · exact ⟨[], .inl rfl, (List.append_nil _).symm⟩

theorem names_of_last {path : String} {c : Char} (last : path.toList.getLast? = some c)
    (other : c ≠ '/') : names path = parts path := by
  rw [names, last, if_neg (by simpa using other)]
  rfl

section
variable {path : String} (some : ∀ c ∈ components path, c ≠ "")
include some

theorem parts_of_components : parts path = components path :=
  List.filter_eq_self.mpr fun c member => by simpa using some c member

theorem last_of_components : ∃ c, path.toList.getLast? = Option.some c ∧ c ≠ '/' := by
  rcases List.eq_nil_or_concat path.toList with cut | ⟨before, c, cut⟩
  · have only : "" ∈ components path := by simp [components, cut, Text.pieces]
    exact absurd rfl (some "" only)
  · refine ⟨c, by simp [cut], ?_⟩
    rintro rfl
    have last : "" ∈ components path := by simp [components, cut, Text.pieces_append, Text.pieces]
    exact some "" last rfl

end

theorem fileBelow_toList (root path : String) : ∃ before, (Source.fileBelow root path).toList =
    before ++ '/' :: path.toList ∧ (root.toList = before ∨ root.toList = before ++ ['/']) := by
  rw [Source.fileBelow]
  split
  · rename_i ended
    obtain ⟨before, cut⟩ := List.getLast?_eq_some_iff.mp (eq_of_beq ended)
    exact ⟨before, by simp [cut], .inr cut⟩
  · exact ⟨root.toList, by simp, .inl rfl⟩

section
variable {root path : String}

theorem isAbsolute_below (given : root ≠ "") :
    isAbsolute (Source.fileBelow root path) = isAbsolute root := by
  obtain ⟨before, cut, rooted⟩ := fileBelow_toList root path
  rw [isAbsolute, isAbsolute, cut]
  cases before with
  | nil =>
    rcases rooted with none | slash
    · exact absurd (String.toList_eq_nil_iff.mp none) given
    · simp [slash]
  | cons c before => rcases rooted with here | here <;> simp [here]

theorem names_of_below {c : Char} (last : path.toList.getLast? = some c) (other : c ≠ '/') :
    names (Source.fileBelow root path) = parts root ++ parts path := by
  obtain ⟨before, cut, rooted⟩ := fileBelow_toList root path
  have ended : (Source.fileBelow root path).toList.getLast? = some c := by
    rw [cut, List.getLast?_append, List.getLast?_cons, last]
    simp
  have split : components (Source.fileBelow root path) =
      (Text.pieces '/' before).map String.ofList ++ components path := by
    rw [components, cut, Text.pieces_append, List.map_append]
    rfl
  have kept : parts root =
      ((Text.pieces '/' before).map String.ofList).filter (!·.isEmpty) := by
    rcases rooted with here | here
    · rw [parts, components, here]
    · simp [parts, components, here, Text.pieces_append, Text.pieces]
  rw [names_of_last ended other, parts, split, List.filter_append, ← kept]
  rfl

theorem names_below (some : ∀ c ∈ components path, c ≠ "") :
    names (Source.fileBelow root path) = parts root ++ components path := by
  obtain ⟨c, last, other⟩ := last_of_components some
  rw [names_of_below last other, parts_of_components some]

end

section
variable {t : FileTree} {base : List String}

theorem kindAt?_above {place rest : List String} {name : String} {node : FileTree}
    (there : t.nodeAt? (place ++ name :: rest) = some node) :
    t.kindAt? place = some .directory := by
  rw [nodeAt?_append] at there
  obtain ⟨above, found, below⟩ := Option.bind_eq_some_iff.mp there
  rw [kindAt?, found]
  cases above with
  | directory entries => rfl
  | file content => simp [nodeAt?, child?] at below
  | link target => simp [nodeAt?, child?] at below

/-- Where a path leads that starts with a path to a directory. What is left of that path, `first`,
may end in one more name that leads nowhere else. -/
theorem resolve_through {entries : List (String × FileTree)}
    (found : t.nodeAt? base = some (.directory entries)) {ending : List String}
    (ends : ending = [] ∨ ending = ["."]) (links : Nat) (done first : List String)
    (arrives : t.resolve links done (first ++ ending) = .ok base) :
    ∃ fewer, ∀ more, t.resolve links done (first ++ more) = t.resolve fewer base more := by
  generalize todo : first ++ ending = path at arrives
  induction links, done, path using path_induction generalizing first with
  | arrived links done =>
    rw [resolve] at arrives
    obtain ⟨rfl, -⟩ := List.append_eq_nil_iff.mp todo
    obtain rfl := Except.ok.inj arrives
    exact ⟨links, fun more => rfl⟩
  | current links done rest ih =>
    rw [resolve] at arrives
    cases first with
    | nil =>
      obtain rfl : rest = [] := by rcases ends with rfl | rfl <;> simp_all
      rw [resolve] at arrives
      obtain rfl := Except.ok.inj arrives
      exact ⟨links, fun more => rfl⟩
    | cons name first =>
      obtain ⟨rfl, cut⟩ := List.cons.inj todo
      simpa only [List.cons_append, resolve] using ih _ cut arrives
  | parent links done rest ih =>
    rw [resolve] at arrives
    cases first with
    | nil => rcases ends with rfl | rfl <;> simp at todo
    | cons name first =>
      obtain ⟨rfl, cut⟩ := List.cons.inj todo
      simpa only [List.cons_append, resolve] using ih _ cut arrives
  | proper links done name rest notCurrent notParent below beyond =>
    cases first with
    | nil => rcases ends with rfl | rfl <;> simp_all
    | cons here first =>
      obtain ⟨rfl, rfl⟩ := List.cons.inj todo
      have isDirectory : t.kindAt? base = some .directory := by
        rw [kindAt?, found]
        rfl
      simp only [List.cons_append, resolve_proper t notCurrent notParent] at arrives ⊢
      split at arrives
      · cases arrives
      rename_i short
      simp only [short, ↓reduceIte]
      rcases there : t.kindAt? (done ++ [here]) with _ | (_ | _ | target) <;>
        rw [there] at arrives
      · rw [(end_of_path arrives).2, isDirectory] at there
        cases there
      · rw [(end_of_path arrives).2, isDirectory] at there
        cases there
      · exact below _ rfl arrives
      · cases links with
        | zero => cases arrives
        | succ fewer =>
          -- The target is put in front of what is left, and there is one link fewer to follow.
          have next := beyond fewer rfl _ _ (names target ++ first)
            (List.append_assoc _ first ending) arrives
          simpa only [List.append_assoc] using next

/-- From a directory, the names on the way to what stands below it lead there, unless one is too
long. A link at the end would be followed. -/
theorem resolve_down_to (base path : List String) {node : FileTree}
    (named : ∀ c ∈ path, EntryName c) (there : t.nodeAt? (base ++ path) = some node)
    (unlinked : ∀ target, node ≠ .link target) (links : Nat) :
    t.resolve links base path =
      if ∃ c ∈ path, nameLimit < c.utf8ByteSize then .error .nameTooLong
      else .ok (base ++ path) := by
  induction path generalizing base with
  | nil => simp [resolve]
  | cons name rest ih =>
    obtain ⟨first, later⟩ := List.forall_mem_cons.mp named
    rw [resolve_proper t first.notCurrent first.notParent]
    by_cases long : nameLimit < name.utf8ByteSize
    · simp [long]
    · cases rest with
      | nil =>
        have last : t.kindAt? (base ++ [name]) = some node.kind := by rw [kindAt?, there]; rfl
        cases node with
        | file content => simp [last, long, kind]
        | directory entries => simp [last, long, kind, resolve]
        | link target => exact absurd rfl (unlinked target)
      | cons next rest =>
        rw [List.append_cons] at there
        rw [kindAt?_above there, if_neg long]
        simpa [long] using ih _ later there

theorem resolve_down (base path : List String) {content : Bytes}
    (named : ∀ c ∈ path, EntryName c) (there : t.contentAt? (base ++ path) = some content)
    (links : Nat) :
    t.resolve links base path =
      if ∃ c ∈ path, nameLimit < c.utf8ByteSize then .error .nameTooLong
      else .ok (base ++ path) :=
  resolve_down_to base path named (nodeAt?_of_contentAt? there) nofun links

theorem located_below {workingDirectory root path : String} {entries : List (String × FileTree)}
    {place : List String} {content : Bytes}
    (opened : t.locate workingDirectory root = .ok base)
    (found : t.nodeAt? base = some (.directory entries))
    (stands : StandsIn (.directory entries) path content)
    (arrives : t.locate workingDirectory (Source.fileBelow root path) = .ok place) :
    place = base ++ components path ∧ t.contentAt? (base ++ components path) = some content := by
  have there : t.contentAt? (base ++ components path) = some content := by
    rw [contentAt?, nodeAt?_append, found]
    exact stands.there
  refine ⟨?_, there⟩
  have some : ∀ c ∈ components path, c ≠ "" := fun c member => (stands.named c member).some
  obtain ⟨given, opened⟩ := resolve_of_located opened
  obtain ⟨-, arrives⟩ := resolve_of_located arrives
  obtain ⟨ending, ends, ended⟩ := names_eq_parts root
  rw [ended] at opened
  obtain ⟨fewer, through⟩ := resolve_through found ends _ _ _ opened
  rw [isAbsolute_below given, names_below some, through] at arrives
  rw [resolve_down base _ stands.named there] at arrives
  split at arrives
  · cases arrives
  · exact (Except.ok.inj arrives).symm

end

end ClassForge.FileTree
