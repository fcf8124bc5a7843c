import Aquifer.Fault

namespace Aquifer

/-- The numbers of cells along the axes, none of them zero. -/
structure Dims where
  nx : Nat
  ny : Nat
  nz : Nat
  nx_pos : 0 < nx
  ny_pos : 0 < ny
  nz_pos : 0 < nz
  deriving DecidableEq

namespace Dims

def ofCoord (s : Coord) : Except Fault Dims :=
  if h : 0 < s.i ∧ 0 < s.j ∧ 0 < s.k then
    .ok ⟨s.i.toNat, s.j.toNat, s.k.toNat, by omega, by omega, by omega⟩
  else .error (Fault.gridDimensions s).reported

variable (d : Dims)

/-- The dimensions as a place: the far corner of the grid. -/
def corner : Coord := ⟨d.nx, d.ny, d.nz⟩

def shape : List Nat := [d.nx, d.ny, d.nz]

def size : Nat := d.nx * d.ny * d.nz

def contains (c : Coord) : Bool :=
  0 ≤ c.i && c.i < d.nx && 0 ≤ c.j && c.j < d.ny && 0 ≤ c.k && c.k < d.nz

/-- The number of a place, read off its coordinates alone. -/
def linear (c : Coord) : Int := c.i + c.j * d.nx + c.k * d.nx * d.ny

def delinear (g : Int) : Coord :=
  let layer : Int := d.nx * d.ny
  ⟨g % layer % d.nx, g % layer / d.nx, g / layer⟩

def index (c : Coord) : Except Fault Int :=
  if d.contains c then .ok (d.linear c) else .error (Fault.outsideGrid c d.shape).reported

def coord (g : Int) : Except Fault Coord :=
  if 0 ≤ g ∧ g < d.size then .ok (d.delinear g)
  else .error (Fault.noSuchCell g d.size).reported

def cells : List Coord :=
  (List.range d.nz).flatMap fun (k : Nat) ↦
    (List.range d.ny).flatMap fun (j : Nat) ↦
      (List.range d.nx).map fun (i : Nat) ↦ ⟨(i : Int), (j : Int), (k : Int)⟩

variable {d}

theorem contains_iff {c : Coord} : d.contains c = true ↔
    (0 ≤ c.i ∧ c.i < d.nx) ∧ (0 ≤ c.j ∧ c.j < d.ny) ∧ 0 ≤ c.k ∧ c.k < d.nz := by
  simp only [contains, Bool.and_eq_true, decide_eq_true_eq]
  omega

theorem linear_eq (c : Coord) : d.linear c = c.i + d.nx * (c.j + d.ny * c.k) := by
  simp only [linear]
  grind

end Dims

end Aquifer
