/-!
Why a text is no TOML document.
-/
namespace ClassForge.Toml

inductive Fault where
  | expected (what : String)
  | escape
  | number
  | date
  | duplicateKey (key : String)
  | notTable (key : String)
  | nestedTooDeep
  deriving DecidableEq, Repr

def Fault.message : Fault → String
  | .expected what => s!"expected {what}"
  | .escape => "invalid escape sequence"
  | .number => "invalid number"
  | .date => "invalid date or time"
  | .duplicateKey key => s!"duplicate key `{key}`"
  | .notTable key => s!"key `{key}` is not a table"
  | .nestedTooDeep => "nested too deeply"

/-- Values may stand in fewer arrays and inline tables than this, and keys have fewer parts. -/
def depthLimit : Nat := 80

end ClassForge.Toml
