import Aquifer.NonNeighbour
import Aquifer.Numerical.Registry

namespace Aquifer

structure CellArrays where
  poreVolume : List Double
  satTable : List Int
  pvtTable : List Int
  depth : List Double

namespace CellArrays

def zeros (n : Nat) : CellArrays :=
  ⟨List.replicate n 0.0, List.replicate n 0, List.replicate n 0, List.replicate n 0.0⟩

/-- A step on arrays; what was written before it failed stays. -/
abbrev Step := Attempt CellArrays Unit

/-- Writes an entry of the array that the lens selects, if there is such an entry. -/
def write {α : Type} (get : CellArrays → List α) (put : CellArrays → List α → CellArrays)
    (n : Nat) (x : α) : Step := do
  let a ← EStateM.get
  if n < (get a).length then EStateM.set (put a ((get a).set n x))
  else throw .noSuchPlace

def writeCell (g : Grid) (c : StorageCell) : Step := do
  let n ← match g.activeIndex c.index with
    | .ok n => pure n
    | .error e => throw e
  write poreVolume (fun a xs ↦ { a with poreVolume := xs }) n c.poreVolume
  write satTable (fun a xs ↦ { a with satTable := xs }) n c.satTable
  write pvtTable (fun a xs ↦ { a with pvtTable := xs }) n c.pvtTable
  write depth (fun a xs ↦ { a with depth := xs }) n c.depth

def writeCells (g : Grid) : List StorageCell → Step
  | [] => return
  | c :: cs => do
    writeCell g c
    writeCells g cs

end CellArrays

/-- The transmissibility between the cell with a number and its upper neighbour along an axis. -/
abbrev Mark := Axis × Int

namespace Mark

/-- The transmissibility across a face of an aquifer cell, if the cell on the other side is
active. It belongs to the lower of the two cells. -/
def ofFace (g : Grid) (m : ActiveMap) (c : StorageCell) (f : Face) : Except Fault (List Mark) := do
  if !(← g.neighbourActive m c.place f) then return []
  if f.upper then return [(f.axis, c.index)]
  return [(f.axis, ← g.dims.index (c.place + f.offset))]

def ofCells (g : Grid) (override : Option ActiveMap) (cs : List StorageCell) :
    Except Fault (List Mark) := do
  let m := g.mapOr override
  let marks ← cs.mapM fun c ↦ do return (← Face.all.mapM (ofFace g m c)).flatten
  return marks.flatten

def along (a : Axis) (marks : List Mark) : List Int :=
  ((marks.filter (·.1 == a)).map (·.2)).mergeSort.eraseDups

end Mark

/-- The connections between distant cells that the aquifers add. Couplings are not among them, so
there are none. -/
def Registry.nonNeighbours (_ : Registry) : List NonNeighbour := []

end Aquifer
