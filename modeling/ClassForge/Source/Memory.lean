import ClassForge.Source

/-!
Entries held in memory. A replaced entry keeps its place and its name, and takes the bytes of the
artifact.
-/
namespace ClassForge.Source

structure Stored where
  name : String
  bytes : Bytes
  replaced : Bool := false
  deriving DecidableEq, Repr

abbrev Stock := List Stored

namespace Stock

def ofPairs (pairs : List (String × Bytes)) : Stock := pairs.map fun (n, b) => ⟨n, b, false⟩

def names (s : Stock) : List String := s.map (·.name)

def replaced (s : Stock) : List String := (s.filter (·.replaced)).map (·.name)

def get? (s : Stock) (name : String) : Option Bytes := (s.find? (·.name == name)).map (·.bytes)

def replace (x : Place) (a : Artifact) (s : Stock) : Except RunError Unit × Stock :=
  if x.index < s.length then
    (.ok (), s.modify x.index fun e => { e with bytes := a.bytes, replaced := true })
  else (.error (.malformed (.vanished x.name)), s)

end Stock

def inMemory : Container Stock Place where
  name := Place.name
  handOut _ s := s
  retain _ s := s
  replace := Stock.replace
  close s := (.ok (), s)

def ofStock (stock : Stock) : Source Stock Place where
  container := inMemory
  pending := .ofList ((places stock.names).map .ok)
  store := stock

end ClassForge.Source
