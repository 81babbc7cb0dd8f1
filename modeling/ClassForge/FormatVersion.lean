import ClassForge.Number.Digits
import ClassForge.Text.Blank
import ClassForge.Text.Cut

/-!
Versions of the class file format. A version is written as a Java release (`17`), in the notation
of the early releases (`1.8`), or as the two numbers stored in a class file (`52.0`). Release `n`
has the major number `44 + n` and the minor number zero.
-/
namespace ClassForge

structure FormatVersion where
  major : Nat
  minor : Nat
  deriving DecidableEq, Repr

inductive VersionFault where
  /-- The text, as it was given, is in none of the three notations. -/
  | invalid (text : String)
  | unsupportedRelease (release : Nat)
  deriving DecidableEq, Repr

def VersionFault.message : VersionFault → String
  | .invalid text => s!"invalid class file version `{text}`"
  | .unsupportedRelease n => "unsupported Java release " ++ Number.decimal n

namespace FormatVersion
open Number Text

def base : Nat := 44

/-- The numbers of a class file version are stored in two bytes each. -/
def limit : Nat := 65535

def ofRelease (release : Nat) : Except VersionFault FormatVersion :=
  if release = 0 ∨ 99 < release then .error (.unsupportedRelease release)
  else .ok ⟨base + release, 0⟩

def release (v : FormatVersion) : Nat := v.major - base

/-- A release. The fault shows the whole text, in which `1.` may stand before it. -/
def readRelease (text : String) (cs : List Char) : Except VersionFault FormatVersion :=
  match readUnsigned? 10 limit cs with
  | some n => ofRelease n
  | none => .error (.invalid text)

def parse (text : String) : Except VersionFault FormatVersion :=
  let cs := trim text.toList
  match cutFirst '.' cs with
  | none => readRelease text cs
  | some (['1'], after) => readRelease text after
  | some (before, after) =>
    match readUnsigned? 10 limit before, readUnsigned? 10 limit after with
    | some major, some minor =>
      if major ≤ base then .error (.invalid text) else .ok ⟨major, minor⟩
    | _, _ => .error (.invalid text)

def pair (v : FormatVersion) : String := decimal v.major ++ "." ++ decimal v.minor

def render (v : FormatVersion) : String := "Java " ++ decimal v.release ++ " (" ++ v.pair ++ ")"

/-- By major number, then by minor number. -/
def le (a b : FormatVersion) : Bool :=
  a.major < b.major || (a.major == b.major && a.minor ≤ b.minor)

end FormatVersion
end ClassForge
