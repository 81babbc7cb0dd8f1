import ClassForge.FileTree
import ClassForge.Source
import ClassForge.Tar.Reader
import ClassForge.Tar.Writer

/-!
Archives as sources. The files of an archive are entered in a ledger, which keeps what happened to
each; an archive can be written from a ledger, in which replaced entries have their new bytes.
-/
namespace ClassForge

inductive Disposition where
  | pending
  | retained
  | replaced (artifact : Artifact)
  deriving DecidableEq, Repr

structure LedgerEntry where
  name : String
  initial : Bytes
  disposition : Disposition := .pending
  deriving DecidableEq, Repr

/-- The bytes to write: those of the artifact, or those that were read. -/
def LedgerEntry.bytes (e : LedgerEntry) : Bytes :=
  match e.disposition with
  | .replaced a => a.bytes
  | .pending | .retained => e.initial

abbrev Ledger := List LedgerEntry

namespace Ledger

def ofFiles (files : List (String × Bytes)) : Ledger := files.map fun (n, b) => ⟨n, b, .pending⟩

def unreadable (detail : String) : RunError := .malformed (.unreadableEntry (.archive detail))

def ofArchive (bytes : Bytes) : Except RunError Ledger :=
  match Tar.files bytes with
  | .ok files => .ok (ofFiles files)
  | .error fault => .error (unreadable fault.message)

def names (l : Ledger) : List String := l.map (·.name)

def disposition? (l : Ledger) (name : String) : Option Disposition :=
  (l.find? (·.name == name)).map (·.disposition)

def retained (l : Ledger) : List String :=
  (l.filter (·.disposition == .retained)).map (·.name)

def replaced (l : Ledger) : List String :=
  (l.filter fun e => match e.disposition with
    | .replaced _ => true
    | _ => false).map (·.name)

def set (index : Nat) (d : Disposition) (l : Ledger) : Ledger :=
  l.modify index fun e => { e with disposition := d }

/-- The archive that holds every entry, as far as it can be written. -/
def written (l : Ledger) : Tar.Written := Tar.write (l.map fun e => (e.name, e.bytes))

def writeError (w : Tar.Written) : Option RunError :=
  w.fault.map fun (name, fault) =>
    .io ("writing archive entry " ++ name) (.archive fault.message)

def write (l : Ledger) : Except RunError Bytes :=
  match writeError l.written with
  | some err => .error err
  | none => .ok l.written.bytes

/-- Writes the archive entry by entry; `append` puts bytes behind those that are written already. It
is ended also where an entry could not be written, and then nothing more is told of the end. -/
def writeTo {m : Type → Type} [Monad m] (append : Bytes → m (Option OsFault)) :
    Ledger → m (Option RunError)
  | [] => do
    return (← append Tar.ending).map fun fault => .io "finishing archive" fault.detail
  | x :: rest => do
    let (member, refused) := Tar.fileMember (Text.Utf8.encode x.name) x.bytes
    let interrupted ← append member
    match interrupted.map OsFault.detail, refused.map fun fault => Detail.archive fault.message with
    | none, none => writeTo append rest
    | some cause, _ | none, some cause => do
      let _ ← append Tar.ending
      return some (.io ("writing archive entry " ++ x.name) cause)

end Ledger

namespace Source

def inArchive : Container Ledger Place where
  name := Place.name
  handOut _ l := l
  retain x l := l.set x.index .retained
  replace x a l := (.ok (), l.set x.index (.replaced a))
  close l := (.ok (), l)

def ofLedger (ledger : Ledger) : Source Ledger Place where
  container := inArchive
  pending := .ofList ((places ledger.names).map .ok)
  store := ledger

end Source
end ClassForge
