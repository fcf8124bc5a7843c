import Aquifer.Grid.Array
import Aquifer.Grid.Face
import Aquifer.Grid.Index
import Aquifer.Number.PairwiseSum
import Aquifer.Place

namespace Aquifer

structure Grid where
  dims : Dims
  dx : Vector Double dims.size
  dy : Vector Double dims.size
  dz : Vector Double dims.size
  tops : Vector Double (dims.nx * dims.ny)
  active : Vector Bool dims.size

/-- The arrays that a grid is made from; a single number stands for every cell. -/
structure GridArrays where
  dx : Raw := .real 1.0
  dy : Raw := .real 1.0
  dz : Raw := .real 1.0
  tops : Raw := .real 0.0
  active : Option Raw := none

abbrev ActiveMap := Array Bool

namespace Grid

/-- The number of entries, of eight bytes each, from which on an array cannot even be asked for. -/
def unaddressable : Nat := 0x1000000000000000

def maxEntries : Nat := 0x400000000

def filled (n : Nat) (x : Double) : Except Fault (Array Double) :=
  if unaddressable ≤ n then .error .noArray
  else if maxEntries < n then .error .outOfMemory
  else .ok (Array.replicate n x)

def cellValues (name : String) (shape : List Nat) (x : Raw) : Except Fault (Array Double) := do
  let (found, xs) ← x.array Raw.toRealEntry
  match found, xs with
  | [], [x] => filled (shape.foldr (· * ·) 1) x
  | _, xs => if found = shape then return xs.toArray else .error (.arrayShape name found shape)

def rowMajor (d : Dims) (c : Coord) : Nat := ((c.i * d.ny + c.j) * d.nz + c.k).toNat

/-- The cell values of an array of shape `nx × ny × nz`, in the order of the cells' numbers. -/
def byIndex {α : Type} (d : Dims) (fallback : α) (xs : Array α) : Vector α d.size :=
  Vector.ofFn fun g ↦ xs.getD (rowMajor d (d.delinear g)) fallback

/-- The values of an array of shape `nx × ny` with `i` running fastest. -/
def byColumn (d : Dims) (xs : Array Double) : Vector Double (d.nx * d.ny) :=
  Vector.ofFn fun g ↦ xs.getD (g % d.nx * d.ny + g / d.nx) 0.0

/-- The grid that dimensions and arrays make. The first array that does not fit is reported. -/
def ofArrays (size : Coord) (a : GridArrays) : Except Fault Grid := do
  let d ← Dims.ofCoord size
  let dx ← cellValues "dx" d.shape a.dx
  let dy ← cellValues "dy" d.shape a.dy
  let dz ← cellValues "dz" d.shape a.dz
  let tops ← cellValues "tops" [d.nx, d.ny] a.tops
  let active ← match a.active with
    | none => pure (Vector.replicate d.size true)
    | some x =>
      let (found, xs) ← x.array Raw.toFlag
      if found = d.shape then pure (byIndex d false xs.toArray)
      else .error (.arrayShape "actnum" found d.shape)
  return {
    dims := d
    dx := byIndex d 0.0 dx
    dy := byIndex d 0.0 dy
    dz := byIndex d 0.0 dz
    tops := byColumn d tops
    active := active }

variable (g : Grid)

def activeCount : Nat := g.active.toList.count true

def rank (n : Nat) : Nat := (g.active.toList.take n).count true

def activeIndex (n : Int) : Except Fault Nat := do
  let c ← g.dims.coord n
  if g.active.toList.getD n.toNat false then return g.rank n.toNat else .error (.inactiveCell c)

/-- Whether the cell at a place is active. Along each axis, negative places count back from the
far end. -/
def cellActive (c : Coord) : Except Fault Bool :=
  match place? g.dims.nx c.i, place? g.dims.ny c.j, place? g.dims.nz c.k with
  | some i, some j, some k =>
    .ok (g.active.toList.getD (g.dims.linear ⟨i, j, k⟩).toNat false)
  | _, _, _ => .error .noSuchPlace

def mapOr (override : Option ActiveMap) : ActiveMap := override.getD g.active.toArray

def activeIn (m : ActiveMap) (c : Coord) : Except Fault Bool :=
  if g.dims.contains c then
    match m[(g.dims.linear c).toNat]? with
    | some b => .ok b
    | none => .error .noSuchPlace
  else .ok false

def neighbourActive (m : ActiveMap) (c : Coord) (f : Face) : Except Fault Bool :=
  g.activeIn m (c + f.offset)

/-- Whether an aquifer can be connected to a cell across a face: the cell is active and, unless
internal cells are admitted, the cell across the face is not. -/
def connectable (m : ActiveMap) (internal : Bool) (f : Face) (c : Coord) : Except Fault Bool := do
  if !(← g.activeIn m c) then return false
  if internal then return true
  return !(← g.neighbourActive m c f)

def text : String := s!"CartesianGrid(dims={shapeText g.dims.shape}, n_active={g.activeCount})"

end Grid

end Aquifer
