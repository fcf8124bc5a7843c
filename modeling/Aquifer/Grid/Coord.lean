import Aquifer.Number.Text

namespace Aquifer

/-- A place in the lattice of cells, inside a grid or not. -/
structure Coord where
  i : Int
  j : Int
  k : Int
  deriving DecidableEq, Repr

namespace Coord

def add (c : Coord) (d : Coord) : Coord := ⟨c.i + d.i, c.j + d.j, c.k + d.k⟩

instance : Add Coord := ⟨add⟩

def oneBased (c : Coord) : Coord := ⟨c.i + 1, c.j + 1, c.k + 1⟩

def zeroBased (c : Coord) : Coord := ⟨c.i - 1, c.j - 1, c.k - 1⟩

def text (c : Coord) : Option String := do
  let i ← Number.intText? c.i
  let j ← Number.intText? c.j
  let k ← Number.intText? c.k
  return s!"({i}, {j}, {k})"

theorem oneBased_zeroBased (c : Coord) : c.zeroBased.oneBased = c := by
  simp [oneBased, zeroBased]

end Coord

end Aquifer
