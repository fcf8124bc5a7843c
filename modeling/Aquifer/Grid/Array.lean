import Aquifer.Binary.Bytes
import Aquifer.Raw

namespace Aquifer

namespace Raw

mutual

def shape? : Raw → Option (List Nat)
  | .list xs => (commonShape? xs).map fun s ↦ xs.length :: s
  | _ => some []

def commonShape? : List Raw → Option (List Nat)
  | [] => some []
  | [x] => shape? x
  | x :: xs =>
    match shape? x, commonShape? xs with
    | some s, some t => if s = t then some s else none
    | _, _ => none

end

mutual

def scalars : Raw → List Raw
  | .list xs => scalarsOf xs
  | x => [x]

def scalarsOf : List Raw → List Raw
  | [] => []
  | x :: xs => scalars x ++ scalarsOf xs

end

def maxAxes : Nat := 64

def array {α : Type} (convert : Raw → Except Fault α) (x : Raw) :
    Except Fault (List Nat × List α) := do
  let some shape := x.shape? | .error .noArray
  if maxAxes < shape.length then .error .noArray
  return (shape, ← x.scalars.mapM convert)

/-- The table number of an entry, which fits into a word of four bytes; decimals are dropped. -/
def toTable (x : Raw) : Except Fault Int := do
  let n ← x.toInt
  if Binary.fits 4 n then .ok n else .error .tooLarge

end Raw

end Aquifer
