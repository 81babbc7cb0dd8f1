import ClassForge.Toml.Statement

/-!
From statements to the table of a document. The keys and values after a header belong to its table,
which joins the document when the next header begins.
-/
namespace ClassForge.Toml

/-- Where the table being read belongs. -/
inductive Place where
  | top
  | table (path : List String) (key : String)
  | element (path : List String) (key : String)

structure Reading where
  root : Table := .empty
  current : Table := .empty
  place : Place := .top

namespace Reading

def settled (r : Reading) : Except Fault Table :=
  match r.place with
  | .top => .ok r.current
  | .table path key =>
    r.root.within false (fun t =>
      if (t.find? key).isSome then .error (.duplicateKey key)
      else .ok (t.put key r.current.toItem)) path
  | .element path key =>
    r.root.within false (fun t =>
      match t.find? key with
      | some (.tables elements) => .ok (t.put key (.tables (elements ++ [r.current.entries])))
      | some _ => .error (.duplicateKey key)
      | none => .ok (t.put key (.tables [r.current.entries]))) path

/-- The table that a header takes up again: one that is implicit, but not by a dotted key. -/
private def reopened (t : Table) (key : String) : Except Fault Table :=
  match t.find? key with
  | none => .ok .empty
  | some (.table true false entries) => .ok ⟨false, false, entries⟩
  | some _ => .error (.duplicateKey key)

private def tableAt? (root : Table) : List String → Option Table
  | [] => some root
  | key :: path =>
    match root.find? key with
    | some (.table implicit dotted entries) => tableAt? ⟨implicit, dotted, entries⟩ path
    | some (.tables elements) =>
      elements.getLast?.bind fun last => tableAt? ⟨false, false, last⟩ path
    | _ => none

structure Keyed (r : Reading) : Prop where
  root : r.root.Keyed
  current : r.current.Keyed

theorem Keyed.settled {r : Reading} {t : Table} (h : r.Keyed) (done : r.settled = .ok t) :
    t.Keyed := by
  unfold Reading.settled at done
  split at done
  · exact Except.ok.inj done ▸ h.current
  · refine h.root.within (fun t t' keyed changed => ?_) done
    split at changed
    · cases changed
    · exact Except.ok.inj changed ▸ keyed.put h.current.toItem
  · refine h.root.within (fun t t' keyed changed => ?_) done
    split at changed
    · rename_i elements there
      obtain ⟨distinct, inside⟩ := keyed.elements there
      refine Except.ok.inj changed ▸ keyed.put (.tables ?_ ?_)
      · exact List.forall_mem_append.mpr ⟨distinct, List.forall_mem_singleton.mpr h.current.distinct⟩
      · exact List.forall_mem_append.mpr ⟨inside, List.forall_mem_singleton.mpr h.current.inside⟩
    · cases changed
    · refine Except.ok.inj changed ▸ keyed.put (.tables ?_ ?_)
      · exact List.forall_mem_singleton.mpr h.current.distinct
      · exact List.forall_mem_singleton.mpr h.current.inside

private theorem reopened_keyed {t new : Table} {key : String} (h : t.Keyed)
    (taken : reopened t key = .ok new) : new.Keyed := by
  unfold reopened at taken
  split at taken
  · exact Except.ok.inj taken ▸ .empty
  · rename_i there
    obtain ⟨distinct, inside⟩ := h.below there
    exact Except.ok.inj taken ▸ ⟨distinct, inside⟩
  · cases taken

private theorem tableAt_keyed {root t : Table} {path : List String} (h : root.Keyed)
    (there : tableAt? root path = some t) : t.Keyed := by
  induction path generalizing root with
  | nil => exact Option.some.inj there ▸ h
  | cons key path ih =>
    rw [tableAt?] at there
    split at there
    · exact ih (h.below ‹_›) there
    · rename_i elements found
      obtain ⟨last, ending, there⟩ := Option.bind_eq_some_iff.mp there
      have among := List.mem_of_getLast? ending
      obtain ⟨distinct, inside⟩ := h.elements found
      exact ih ⟨distinct last among, inside last among⟩ there
    · cases there

def step (r : Reading) : Statement → Except Fault Reading
  | .pair path key v => do return { r with current := ← r.current.insert path key v }
  | .header path key => do
    let root ← r.settled
    let root ← root.within false .ok path
    let current ← reopened ((tableAt? root path).getD .empty) key
    let root ← root.within false (fun t => .ok (t.erase key)) path
    return ⟨root, current, .table path key⟩
  | .element path key => do
    let root ← r.settled
    let root ← root.within false (fun t =>
      match t.find? key with
      | none => .ok (t.put key (.tables []))
      | some (.tables _) => .ok t
      | some _ => .error (.duplicateKey key)) path
    return ⟨root, .empty, .element path key⟩

theorem Keyed.step {r r' : Reading} {s : Statement} (h : r.Keyed) (given : s.Keyed)
    (taken : r.step s = .ok r') : r'.Keyed := by
  cases s with
  | pair path key v =>
    obtain ⟨current, inserted, same⟩ := bind_succeeds taken
    exact Except.ok.inj same ▸ ⟨h.root, h.current.insert given inserted⟩
  | header path key =>
    obtain ⟨settled, done, taken⟩ := bind_succeeds taken
    obtain ⟨passed, made, taken⟩ := bind_succeeds taken
    obtain ⟨current, again, taken⟩ := bind_succeeds taken
    obtain ⟨root, erased, same⟩ := bind_succeeds taken
    have whole : passed.Keyed :=
      (h.settled done).within (fun t t' keyed same => Except.ok.inj same ▸ keyed) made
    have cut : root.Keyed :=
      whole.within (fun t t' keyed same => Except.ok.inj same ▸ keyed.erase) erased
    refine Except.ok.inj same ▸ ⟨cut, reopened_keyed ?_ again⟩
    cases there : tableAt? passed path with
    | none => exact .empty
    | some t => exact tableAt_keyed whole there
  | element path key =>
    obtain ⟨settled, done, taken⟩ := bind_succeeds taken
    obtain ⟨root, made, same⟩ := bind_succeeds taken
    refine Except.ok.inj same ▸ ⟨(h.settled done).within (fun t t' keyed changed => ?_) made, .empty⟩
    split at changed
    · exact Except.ok.inj changed ▸ keyed.put (.tables (by simp) (by simp))
    · exact Except.ok.inj changed ▸ keyed
    · cases changed

theorem Keyed.steps {r r' : Reading} {given : List Statement} (h : r.Keyed)
    (keyed : ∀ s ∈ given, s.Keyed) (taken : given.foldlM Reading.step r = .ok r') : r'.Keyed := by
  induction given generalizing r with
  | nil => exact Except.ok.inj taken ▸ h
  | cons s rest ih =>
    obtain ⟨first, later⟩ := List.forall_mem_cons.mp keyed
    rw [List.foldlM_cons] at taken
    obtain ⟨next, done, taken⟩ := bind_succeeds taken
    exact ih (h.step first done) later taken

end Reading

def parse (text : String) : Except Fault Value.Entries := do
  let reading ← (← statements text).foldlM Reading.step {}
  return Item.entriesToValues (← reading.settled).entries

theorem parse_keyed {text : String} {entries : Value.Entries} (read : parse text = .ok entries) :
    (Value.table entries).Keyed := by
  obtain ⟨given, stated, read⟩ := bind_succeeds read
  obtain ⟨reading, taken, read⟩ := bind_succeeds read
  obtain ⟨root, done, same⟩ := bind_succeeds read
  have start : Reading.Keyed {} := ⟨.empty, .empty⟩
  exact Except.ok.inj same ▸
    ((start.steps (statements_keyed stated) taken).settled done).toValue

end ClassForge.Toml
