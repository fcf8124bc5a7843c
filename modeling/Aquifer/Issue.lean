import Aquifer.Grid.Coord

namespace Aquifer

inductive IssueCause where
  | unspecified
  /-- The cell already stores water of the aquifer `owner`. -/
  | cellTaken (owner : Int)
  | coupledTwice
  | unusableCell (reason : String)
  | nothingDeclared (what : String)
  /-- The cell is connected to the analytic aquifer `other` as well. -/
  | sharedCell (other : Int)
  deriving DecidableEq, Repr

/-- A fault in a deck's aquifers; the cell counts from one. -/
structure Issue where
  aquifer : Int
  cell : Option Coord
  cause : IssueCause
  deriving DecidableEq, Repr

namespace Issue

def cellText (x : Issue) : Option String :=
  match x.cell with
  | none => some ""
  | some c => c.text.map fun s ↦ " cell " ++ s

def message (x : Issue) : Option String := do
  let a ← Number.intText? x.aquifer
  match x.cause with
  | .nothingDeclared what => return s!"Numerical aquifer {a} does not have any {what}"
  | .unspecified =>
    let cell ← x.cellText
    return s!"Aquifer {a}:{cell} invalid configuration"
  | .coupledTwice =>
    let cell ← x.cellText
    return s!"The{cell} is declared more than once as a connection for numerical aquifer {a}"
  | .unusableCell reason =>
    let cell ← x.cellText
    return s!"The{cell} of numerical aquifer {a} {reason}"
  | .cellTaken other =>
    let cell ← x.cellText
    let b ← Number.intText? other
    return s!"The{cell} is declared as a numerical aquifer cell for aquifer {a}, " ++
      s!"but is already a cell of aquifer {b}"
  | .sharedCell other =>
    let cell ← x.cellText
    let b ← Number.intText? other
    return s!"The{cell} is connected to analytic aquifer {a} and to analytic aquifer {b}"

end Issue

end Aquifer
