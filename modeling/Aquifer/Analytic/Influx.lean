import Aquifer.Component
import Aquifer.Deck.Basic
import Aquifer.Grid.Box
import Aquifer.Grid.Geometry
import Aquifer.Trace

namespace Aquifer

structure InfluxCell where
  aquifer : Int
  index : Int
  coefficient : Double
  face : Face
  deriving DecidableEq, BEq

def InfluxCell.text (c : InfluxCell) : Option String := do
  let id ← Number.intText? c.aquifer
  let index ← Number.intText? c.index
  return s!"AquancCell(aquifer={id}, global_index={index}, face={c.face.text})"

/-- A cell that a record claims, with its place. -/
structure Claim where
  place : Coord
  cell : InfluxCell
  deriving DecidableEq

namespace Claim

/-- The claim of a cell; without a coefficient of its own it has the area of its face. -/
def ofCell (g : Grid) (aquifer : Int) (f : Face) (coefficient : Option Double)
    (multiplier : Double) (c : Coord) : Except Fault Claim := do
  let n ← g.dims.index c
  let area ← match coefficient with
    | some x => pure x
    | none => g.faceArea n f
  return ⟨c, ⟨aquifer, n, area * multiplier, f⟩⟩

def ofRecord (g : Grid) (r : Record) : Except Fault (List Claim) := do
  let aquifer ← r.int "AQUIFER_ID"
  let box ← Box.ofRecord r
  let face ← Face.ofText (← r.trimmed "FACE")
  let internal ← readFlag (← r.trimmed "CONNECT_ADJOINING_ACTIVE_CELL")
  let multiplier ← r.real "INFLUX_MULT"
  let coefficient ← r.givenOr "INFLUX_COEFF" (fun name ↦ some <$> r.si name) (.ok none)
  let cells ← (box.cells g.dims).filterM (g.connectable (g.mapOr none) internal face)
  cells.mapM (ofCell g aquifer face coefficient multiplier)

/-- The claims so far with one more; a repeated claim moves to the end. -/
def record (held : Keyed Int InfluxCell) (x : Claim) : Traced (Keyed Int InfluxCell) :=
  match held.get? x.cell.index with
  | none => return held.insert x.cell.index x.cell
  | some holder =>
    if holder.aquifer ≠ x.cell.aquifer then
      Traced.ofExcept <| .error <| .issue
        ⟨holder.aquifer, some x.place.oneBased, .sharedCell x.cell.aquifer⟩
    else do
      Traced.note (.claimedAgain x.place.oneBased x.cell.aquifer)
      return (held.erase x.cell.index).insert x.cell.index x.cell

end Claim

/-- The influx cells of each analytic aquifer. -/
@[ext] structure Influx where
  cells : Keyed Int (List InfluxCell)
  deriving BEq

namespace Influx

def empty : Influx := ⟨∅⟩

instance : EmptyCollection Influx := ⟨empty⟩

def add (x : Influx) (c : InfluxCell) : Influx := ⟨x.cells.push c.aquifer c⟩

def ofCells (cs : List InfluxCell) : Influx := cs.foldl add ∅

def ofDeck (d : Deck) (g : Grid) : Traced Influx := do
  let held ← (d.records "AQUANCON").foldlM (fun held r ↦ do
    (← Claim.ofRecord g r).foldlM Claim.record held) ∅
  return ofCells held.values

def toList (x : Influx) : List InfluxCell := x.cells.values.flatten

def isActive (x : Influx) : Bool := x.cells.size != 0

def size (x : Influx) : Nat := x.toList.length

def has (x : Influx) (id : Int) : Bool := x.cells.contains id

def get (x : Influx) (id : Int) : Except Fault (List InfluxCell) :=
  match x.cells.get? id with
  | some cs => .ok cs
  | none => .error .noSuchKey

def text (x : Influx) : String := s!"Aquancon(n_aquifers={x.cells.size}, n_cells={x.size})"

instance : Component Influx where
  title := "analytic connection"
  problems x := (x.toList.filter (·.coefficient < 0.0)).mapM fun c ↦ do
    let cell ← Text.written c.text
    return s!"Analytic connection {cell}: influx coefficient must not be negative"
  count := size

end Influx

end Aquifer
