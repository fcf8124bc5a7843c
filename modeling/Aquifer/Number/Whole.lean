import Aquifer.Number.Shortest

namespace Aquifer.Number

def truncate? (x : Double) : Option Int :=
  if !x.isFinite then none
  else
    let (m, q) := mantissaExponent x
    let n : Nat := if 0 ≤ q then m <<< q.toNat else m >>> (-q).toNat
    some (if x.isNegative then -(n : Int) else n)

def ofInt? (n : Int) : Option Double :=
  let x := Double.ofInt n
  if x.isInf then none else some x

end Aquifer.Number
