import ClassForge.Proofs.ArchiveRoundTrip
import ClassForge.Proofs.WrittenFiles

/-!
Archives that are written into a file, one append after the other. The name of an entry may be
refused, and any append may break off; it is said for both what the file holds then. Where nothing
goes wrong with the file, it holds what the whole archive is.
-/
namespace ClassForge
open Text

namespace Ledger

/-- The writing of a ledger ends early. The entries before the last one are written, and of that one
its long name where the name is refused, or any front where an access goes wrong; what follows of
the end of an archive may be cut off as well. -/
inductive BrokenOff : Ledger → RunError → Bytes → Prop where
  | refused {before behind : Ledger} {x : LedgerEntry} {fault : Tar.Fault} {stop : Bytes}
      (stored : ∀ y ∈ before, (Tar.storedName? y.name).isSome)
      (unnamed : Tar.storedName? x.name = none)
      (blamed : (Tar.fileMember (Utf8.encode x.name) x.bytes).2 = some fault)
      (cut : stop <+: Tar.ending) :
      BrokenOff (before ++ x :: behind)
        (.io ("writing archive entry " ++ x.name) (.archive fault.message))
        (Tar.body before.contents ++ Tar.announced (Utf8.encode x.name) ++ stop)
  | interrupted {before behind : Ledger} {x : LedgerEntry} {front stop : Bytes} (fault : OsFault)
      (stored : ∀ y ∈ before, (Tar.storedName? y.name).isSome)
      (begun : front <+: (Tar.fileMember (Utf8.encode x.name) x.bytes).1)
      (cut : stop <+: Tar.ending) :
      BrokenOff (before ++ x :: behind) (.io ("writing archive entry " ++ x.name) fault.detail)
        (Tar.body before.contents ++ front ++ stop)
  | unended {l : Ledger} {stop : Bytes} (fault : OsFault)
      (stored : ∀ y ∈ l, (Tar.storedName? y.name).isSome) (cut : stop <+: Tar.ending) :
      BrokenOff l (.io "finishing archive" fault.detail) (Tar.body l.contents ++ stop)

structure WritesOut (l : Ledger) (err : Option RunError) (bytes : Bytes) : Prop where
  whole : err = none → bytes = l.written.bytes
  brokenOff : ∀ e, err = some e → BrokenOff l e bytes

section
variable {l : Ledger} {x : LedgerEntry} {err : RunError} {member bytes : Bytes}

theorem contents_cons : contents (x :: l) = (x.name, x.bytes) :: contents l := rfl

theorem storedName_of_member
    (whole : Tar.fileMember (Utf8.encode x.name) x.bytes = (member, none)) :
    (Tar.storedName? x.name).isSome := by
  have outcome := Tar.fileMember_put (Utf8.encode x.name) x.bytes
  rw [Tar.storedName?, Option.isSome_map]
  cases stored : Tar.stored? (Utf8.encode x.name) with
  | some name => rfl
  | none =>
    rw [stored, whole] at outcome
    obtain ⟨fault, same⟩ := outcome
    cases same

theorem announced_of_refused {fault : Tar.Fault}
    (refused : Tar.fileMember (Utf8.encode x.name) x.bytes = (member, some fault)) :
    Tar.storedName? x.name = none ∧ member = Tar.announced (Utf8.encode x.name) := by
  have outcome := Tar.fileMember_put (Utf8.encode x.name) x.bytes
  rw [Tar.storedName?, Option.map_eq_none_iff]
  cases stored : Tar.stored? (Utf8.encode x.name) with
  | none =>
    rw [stored, refused] at outcome
    obtain ⟨fault', same⟩ := outcome
    exact ⟨rfl, (Prod.mk.inj same).1⟩
  | some name =>
    rw [stored, refused] at outcome
    obtain ⟨s, -, ⟨-, same⟩ | ⟨-, same⟩⟩ := outcome <;> cases same

theorem BrokenOff.behind (whole : Tar.fileMember (Utf8.encode x.name) x.bytes = (member, none))
    (broken : BrokenOff l err bytes) : BrokenOff (x :: l) err (member ++ bytes) := by
  have first := storedName_of_member whole
  have begins (before : Ledger) : Tar.body (contents (x :: before)) =
      member ++ Tar.body before.contents := by
    rw [contents_cons, Tar.body, List.flatMap_cons, whole]
    rfl
  cases broken with
  | @refused before behind y fault stop stored unnamed blamed cut =>
    have further : BrokenOff ((x :: before) ++ y :: behind) _ _ :=
      .refused (List.forall_mem_cons.mpr ⟨first, stored⟩) unnamed blamed cut
    rw [begins] at further
    simpa only [List.append_assoc, List.cons_append] using further
  | @interrupted before behind y front stop fault stored begun cut =>
    have further : BrokenOff ((x :: before) ++ y :: behind) _ _ :=
      .interrupted fault (List.forall_mem_cons.mpr ⟨first, stored⟩) begun cut
    rw [begins] at further
    simpa only [List.append_assoc, List.cons_append] using further
  | @unended _ stop fault stored cut =>
    have further := BrokenOff.unended fault (List.forall_mem_cons.mpr ⟨first, stored⟩) cut
    rw [begins] at further
    simpa only [List.append_assoc] using further

theorem written_cons_whole (whole : Tar.fileMember (Utf8.encode x.name) x.bytes = (member, none)) :
    (written (x :: l)).bytes = member ++ l.written.bytes ∧
      writeError (written (x :: l)) = writeError l.written := by
  rw [written, List.map_cons, Tar.write, whole]
  exact ⟨rfl, rfl⟩

theorem written_cons_refused {fault : Tar.Fault}
    (refused : Tar.fileMember (Utf8.encode x.name) x.bytes = (member, some fault)) :
    (written (x :: l)).bytes = member ++ Tar.ending ∧
      writeError (written (x :: l)) =
        some (.io ("writing archive entry " ++ x.name) (.archive fault.message)) := by
  rw [written, List.map_cons, Tar.write, refused]
  exact ⟨rfl, rfl⟩

end

/-- What comes of writing a ledger behind the content of a file that was made. -/
structure WrittenOnto (w v : Workspace) (path : String) (content : Bytes) (l : Ledger)
    (err : Option RunError) (bytes : Bytes) (after : Workspace) : Prop where
  ran : (l.writeTo fun bytes v => v.append path bytes : StateM Workspace _) v = (err, after)
  made : w.Made path (content ++ bytes) after
  writes : WritesOut l err bytes
  smooth : v.Smooth → err = writeError l.written ∧ bytes = l.written.bytes

section
variable {w v next : Workspace} {path : String} {content member : Bytes} {l : Ledger}
  {x : LedgerEntry}

theorem writtenOnto_ending (made : w.Made path content v) :
    ∃ err bytes after, WrittenOnto w v path content [] err bytes after := by
  obtain ⟨fault, stop, after, ran, cut, grown, whole, smooth⟩ := made.append_made Tar.ending
  refine ⟨fault.map fun fault => .io "finishing archive" fault.detail, stop, after, ?_⟩
  constructor
  case ran =>
    simp only [writeTo, bind, StateT.bind, ran]
    rfl
  case made => exact grown
  case writes =>
    refine ⟨fun fine => whole (Option.map_eq_none_iff.mp fine), fun e failed => ?_⟩
    obtain ⟨f, -, rfl⟩ := Option.map_eq_some_iff.mp failed
    exact .unended f (List.forall_mem_nil _) cut
  case smooth =>
    intro easy
    obtain ⟨rfl, -⟩ := smooth easy
    exact ⟨rfl, whole rfl⟩

/-- After a fault of the file, the end of the archive is tried all the same. -/
theorem writtenOnto_interrupted {front : Bytes} {f : OsFault} (rough : ¬v.Smooth)
    (ran : v.append path (Tar.fileMember (Utf8.encode x.name) x.bytes).1 = (some f, next))
    (begun : front <+: (Tar.fileMember (Utf8.encode x.name) x.bytes).1)
    (grown : w.Made path (content ++ front) next) :
    ∃ err bytes after, WrittenOnto w v path content (x :: l) err bytes after := by
  obtain ⟨unheard, stop, after, ended, cut, closed, -⟩ := grown.append_made Tar.ending
  refine ⟨some (.io ("writing archive entry " ++ x.name) f.detail), front ++ stop, after, ?_⟩
  constructor
  case ran =>
    simp only [writeTo, bind, StateT.bind, ran, Option.map_some, ended]
    rfl
  case made => exact List.append_assoc content front stop ▸ closed
  case writes =>
    refine ⟨by simp, fun e failed => ?_⟩
    obtain rfl := Option.some.inj failed
    exact @BrokenOff.interrupted [] l x front stop f (by simp) begun cut
  case smooth => exact fun easy => absurd easy rough

section
variable (easy : v.Smooth → next.Smooth) (ran : v.append path member = (none, next))
include easy ran

theorem writtenOnto_refused {fault : Tar.Fault}
    (refused : Tar.fileMember (Utf8.encode x.name) x.bytes = (member, some fault))
    (grown : w.Made path (content ++ member) next) :
    ∃ err bytes after, WrittenOnto w v path content (x :: l) err bytes after := by
  obtain ⟨unheard, stop, after, ended, cut, closed, ending, smooth⟩ :=
    grown.append_made Tar.ending
  obtain ⟨unnamed, announced⟩ := announced_of_refused refused
  obtain ⟨bytes_eq, error_eq⟩ := written_cons_refused (l := l) refused
  refine ⟨some (.io ("writing archive entry " ++ x.name) (.archive fault.message)), member ++ stop,
    after, ?_⟩
  constructor
  case ran =>
    simp only [writeTo, refused, bind, StateT.bind, ran, Option.map_none, Option.map_some, ended]
    rfl
  case made => exact List.append_assoc content member stop ▸ closed
  case writes =>
    refine ⟨by simp, fun e failed => ?_⟩
    obtain rfl := Option.some.inj failed
    rw [announced]
    exact @BrokenOff.refused [] l x fault stop (by simp) unnamed (by rw [refused]) cut
  case smooth =>
    intro smoothly
    obtain ⟨rfl, -⟩ := smooth (easy smoothly)
    exact ⟨error_eq.symm, by rw [bytes_eq, ending rfl]⟩

theorem writtenOnto_cons {err : Option RunError} {bytes : Bytes} {after : Workspace}
    (whole : Tar.fileMember (Utf8.encode x.name) x.bytes = (member, none))
    (later : WrittenOnto w next path (content ++ member) l err bytes after) :
    WrittenOnto w v path content (x :: l) err (member ++ bytes) after := by
  obtain ⟨bytes_eq, error_eq⟩ := written_cons_whole (l := l) whole
  constructor
  case ran =>
    simp only [writeTo, whole, bind, StateT.bind, ran, Option.map_none]
    exact later.ran
  case made => exact List.append_assoc content member bytes ▸ later.made
  case writes =>
    refine ⟨fun done => ?_, fun e failed => (later.writes.brokenOff e failed).behind whole⟩
    rw [bytes_eq, later.writes.whole done]
  case smooth =>
    intro smoothly
    obtain ⟨rfl, rfl⟩ := later.smooth (easy smoothly)
    exact ⟨error_eq.symm, bytes_eq.symm⟩

end

/-- An archive is written behind the content of a file that was made; where every access goes well,
it is the whole archive, up to the first name that is refused. -/
theorem writeTo_made (made : w.Made path content v) (l : Ledger) :
    ∃ err bytes after, WrittenOnto w v path content l err bytes after := by
  induction l generalizing content v with
  | nil => exact writtenOnto_ending made
  | cons x rest ih =>
    rcases entered : Tar.fileMember (Utf8.encode x.name) x.bytes with ⟨member, refused⟩
    obtain ⟨fault, front, next, ran, begun, grown, whole, smooth⟩ := made.append_made member
    cases fault with
    | some f =>
      refine writtenOnto_interrupted (fun easy => ?_) (by rwa [entered]) (by rwa [entered]) grown
      exact Option.some_ne_none f (smooth easy).1
    | none =>
      obtain rfl := whole rfl
      have easy : v.Smooth → next.Smooth := fun smoothly => (smooth smoothly).2
      cases refused with
      | some fault => exact writtenOnto_refused easy ran entered grown
      | none =>
        obtain ⟨err, bytes, after, later⟩ := ih grown
        exact ⟨err, front ++ bytes, after, writtenOnto_cons easy ran entered later⟩

end

end Ledger

end ClassForge
