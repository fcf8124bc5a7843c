import Aquifer.Grid.Basic

namespace Aquifer

namespace Grid

variable (g : Grid)

def extents (n : Int) : Double × Double × Double :=
  let at' (v : Vector Double g.dims.size) := v.toArray.getD n.toNat 0.0
  (at' g.dx, at' g.dy, at' g.dz)

/-- The depth of the centre of a cell: the top of its column, the cells above, and half of it. -/
def depth (n : Int) : Except Fault Double := do
  let c ← g.dims.coord n
  let height (k : Nat) := g.dz.toArray.getD (g.dims.linear ⟨c.i, c.j, k⟩).toNat 0.0
  let above := Number.pairwiseSum ((List.range c.k.toNat).map height)
  let top := g.tops.toArray.getD (c.i + c.j * g.dims.nx).toNat 0.0
  return top + above + 0.5 * height c.k.toNat

def volume (n : Int) : Except Fault Double := do
  let _ ← g.dims.coord n
  let (dx, dy, dz) := g.extents n
  return dx * dy * dz

def faceArea (n : Int) (f : Face) : Except Fault Double := do
  let _ ← g.dims.coord n
  let (dx, dy, dz) := g.extents n
  return match f.axis with
    | .x => dy * dz
    | .y => dx * dz
    | .z => dx * dy

end Grid

end Aquifer
