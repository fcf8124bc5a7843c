import Aquifer.Grid.Basic
import Aquifer.Keyed

namespace Aquifer

structure Properties where
  size : Nat
  reals : Keyed String (List Double)
  tables : Keyed String (List Int)

namespace Properties

def cellEntries {α : Type} (size : Nat) (convert : Raw → Except Fault α) (name : String)
    (x : Raw) : Except Fault (List α) := do
  let (found, xs) ← x.array convert
  if found = [size] then return xs else .error (.propertyShape name found size)

def collect {α : Type} (size : Nat) (convert : Raw → Except Fault α)
    (arrays : Keyed String Raw) : Except Fault (Keyed String (List α)) :=
  arrays.entries.foldlM
    (fun m e ↦ do return m.insert (Text.upper e.1) (← cellEntries size convert e.1 e.2)) ∅

/-- The table properties that are one everywhere unless given. -/
def defaultTables : List String := ["PVTNUM", "SATNUM"]

def ofArrays (g : Grid) (reals tables : Keyed String Raw) : Except Fault Properties := do
  let n := g.activeCount
  let reals ← collect n Raw.toRealEntry reals
  let tables ← collect n Raw.toTable tables
  let withDefault (m : Keyed String (List Int)) (name : String) :=
    if m.contains name then m else m.insert name (List.replicate n 1)
  return ⟨n, reals, defaultTables.foldl withDefault tables⟩

variable (p : Properties)

def hasReal (name : String) : Bool := p.reals.contains (Text.upper name)

def hasTable (name : String) : Bool := p.tables.contains (Text.upper name)

def real (name : String) : Except Fault (List Double) :=
  match p.reals.get? (Text.upper name) with
  | some xs => .ok xs
  | none => .error (.noRealProperty name)

def table (name : String) : Except Fault (List Int) :=
  match p.tables.get? (Text.upper name) with
  | some xs => .ok xs
  | none => .error (.noTableProperty name)

def text : String :=
  let names := p.reals.keys.mergeSort ++ p.tables.keys.mergeSort
  s!"FieldProperties(n_active={p.size}, properties={Text.quotedList names})"

end Properties

end Aquifer
