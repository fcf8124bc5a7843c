import Aquifer.Deck.Record
import Aquifer.Grid.Geometry
import Aquifer.Grid.Properties

namespace Aquifer

structure StorageCell where
  aquifer : Int
  place : Coord
  index : Int
  area : Double
  length : Double
  permeability : Double
  porosity : Double
  depth : Double
  pvtTable : Int
  satTable : Int
  initialPressure : Option Double := none
  deriving DecidableEq

namespace StorageCell

/-- The transmissibility `2 k A / L`, or zero for a cell without length. -/
def transmissibility (c : StorageCell) : Double :=
  if 0.0 < c.length then 2.0 * c.permeability * c.area / c.length else 0.0

def volume (c : StorageCell) : Double := c.area * c.length

def poreVolume (c : StorageCell) : Double := c.porosity * c.volume

def same (a b : StorageCell) : Bool :=
  a.aquifer == b.aquifer && a.place == b.place && a.index == b.index && a.area == b.area &&
    a.length == b.length && a.permeability == b.permeability && a.porosity == b.porosity &&
    a.depth == b.depth && a.pvtTable == b.pvtTable && a.satTable == b.satTable &&
    a.initialPressure == b.initialPressure && a.transmissibility == b.transmissibility

instance : BEq StorageCell := ⟨same⟩

def ofRecord (g : Grid) (p : Properties) (r : Record) : Except Fault StorageCell := do
  let i ← r.int "I"
  let j ← r.int "J"
  let k ← r.int "K"
  let place := (Coord.mk i j k).zeroBased
  let index ← g.dims.index place
  let active ← g.activeIndex index
  let porosity ← r.givenOr "PORO" r.si do atPlace (← p.real "PORO") active
  let depth ← r.givenOr "DEPTH" r.si (g.depth index)
  let initialPressure ← r.givenOr "INITIAL_PRESSURE" (fun name ↦ some <$> r.si name) (.ok none)
  let pvtTable ← r.givenOr "PVT_TABLE_NUM" r.int do atPlace (← p.table "PVTNUM") active
  let satTable ← r.givenOr "SAT_TABLE_NUM" r.int do atPlace (← p.table "SATNUM") active
  return {
    aquifer := ← r.int "AQUIFER_ID"
    place := place
    index := index
    area := ← r.si "CROSS_SECTION"
    length := ← r.si "LENGTH"
    permeability := ← r.si "PERM"
    porosity := porosity
    depth := depth
    pvtTable := pvtTable
    satTable := satTable
    initialPressure := initialPressure }

def problems (c : StorageCell) : Except Fault (List String) := do
  let id ← Text.written (Number.intText? c.aquifer)
  let place ← Text.written c.place.oneBased.text
  let check (bad : Bool) (what : String) :=
    if bad then [s!"Numerical aquifer {id} cell {place}: {what}"] else []
  return check (c.area ≤ 0.0) "cross-section area must be positive" ++
    check (c.length ≤ 0.0) "length must be positive" ++
    check (c.permeability < 0.0) "permeability must not be negative" ++
    check (!(0.0 ≤ c.porosity && c.porosity ≤ 1.0)) "porosity must be in [0, 1]"

def text (c : StorageCell) : Option String := do
  let id ← Number.intText? c.aquifer
  let place ← c.place.text
  let index ← Number.intText? c.index
  return s!"NumericalAquiferCell(aquifer={id}, ijk={place}, global_index={index})"

end StorageCell

end Aquifer
