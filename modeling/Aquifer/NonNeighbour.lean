import Aquifer.Number.Text

namespace Aquifer

structure NonNeighbour where
  first : Int
  second : Int
  trans : Double
  deriving DecidableEq

namespace NonNeighbour

def between (a b : Int) (trans : Double) : NonNeighbour := ⟨min a b, max a b, trans⟩

def text (c : NonNeighbour) : Option String := do
  let a ← Number.intText? c.first
  let b ← Number.intText? c.second
  return s!"NNCEntry({a} <-> {b}, trans={Number.realText c.trans})"

end NonNeighbour

end Aquifer
