import Aquifer.Component
import Aquifer.Numerical.Cell
import Aquifer.Numerical.Coupling

namespace Aquifer

structure NumericalAquifer where
  id : Int
  cells : List StorageCell
  couplings : List Coupling
  deriving BEq

namespace NumericalAquifer

def poreVolume (a : NumericalAquifer) : Double :=
  a.cells.foldl (fun v c ↦ v + c.poreVolume) 0.0

def hasCell (a : NumericalAquifer) (c : Coord) : Bool := a.cells.any (·.place == c)

def problems (a : NumericalAquifer) : Except Fault (List String) :=
  List.flatten <$> a.cells.mapM (·.problems)

def text (a : NumericalAquifer) : Option String := do
  let id ← Number.intText? a.id
  return s!"SingleNumericalAquifer(id={id}, n_cells={a.cells.length}, " ++
    s!"n_connections={a.couplings.length})"

end NumericalAquifer

@[ext] structure Registry where
  aquifers : Keyed Int NumericalAquifer
  deriving BEq

namespace Registry

def empty : Registry := ⟨∅⟩

instance : EmptyCollection Registry := ⟨empty⟩

def toList (r : Registry) : List NumericalAquifer := r.aquifers.values

def size (r : Registry) : Nat := r.aquifers.size

def cells (r : Registry) : List StorageCell := r.toList.flatMap (·.cells)

def couplings (r : Registry) : List Coupling := r.toList.flatMap (·.couplings)

def has (r : Registry) (id : Int) : Bool := r.aquifers.contains id

def get (r : Registry) (id : Int) : Except Issue NumericalAquifer :=
  match r.aquifers.get? id with
  | some a => .ok a
  | none => .error ⟨id, none, .nothingDeclared "cells"⟩

def text (r : Registry) : String :=
  s!"NumericalAquifers(n_aquifers={r.size}, n_cells={r.cells.length}, " ++
    s!"n_connections={r.couplings.length})"

instance : Component Registry where
  title := "numerical aquifer"
  problems r := do
    let own ← r.toList.mapM (·.problems)
    let bare ← (r.toList.filter (·.couplings.isEmpty)).mapM fun a ↦ do
      let id ← Text.written (Number.intText? a.id)
      return s!"Numerical aquifer {id} has no connections"
    return own.flatten ++ bare
  count := size

end Registry

end Aquifer
