import Aquifer.Number.Double

namespace Aquifer.Number

structure Decimal where
  digits : Nat
  exponent : Int
  deriving DecidableEq, Repr

/-- The leading bit of a mantissa, which all but the smallest doubles leave unwritten. -/
def hiddenBit : Nat := 1 <<< 52

def mantissaExponent (x : Double) : Nat × Int :=
  let b : Nat := x.bits.toNat
  let e : Nat := b / hiddenBit % 2048
  let f : Nat := b % hiddenBit
  if e = 0 then (f, -1074) else (f + hiddenBit, (e : Int) - 1075)

/-- The reals that round to one double: `low / scale` to `high / scale` around `mid / scale`. -/
structure Rounding where
  low : Nat
  mid : Nat
  high : Nat
  scale : Nat
  closed : Bool

/-- The interval of a positive double; just above a power of two the lower half is shorter. -/
def Rounding.ofDouble (x : Double) : Rounding :=
  let (m, q) := mantissaExponent x
  let below := if m = hiddenBit ∧ -1074 < q then 1 else 2
  let up := 1 <<< (q - 2).toNat
  { low := (4 * m - below) * up, mid := 4 * m * up, high := (4 * m + 2) * up
    scale := 1 <<< (2 - q).toNat, closed := m % 2 = 0 }

def Rounding.holds (r : Rounding) (num den : Nat) : Bool :=
  if r.closed then r.low * den ≤ num * r.scale && num * r.scale ≤ r.high * den
  else r.low * den < num * r.scale && num * r.scale < r.high * den

def digitCount (n : Nat) : Nat := (Nat.toDigits 10 n).length

def leadingExponent (num den : Nat) : Int :=
  if den ≤ num then (digitCount (num / den) : Int) - 1
  else
    let k := digitCount (den / num)
    if den ≤ num * Nat.pow 10 (k - 1) then 1 - (k : Int) else -(k : Int)

/-- The point of the grid of multiples of `10 ^ p` in the interval that is nearest to the middle;
halfway between two, the even one. -/
def Rounding.gridPoint? (r : Rounding) (p : Int) : Option Decimal :=
  let up := Nat.pow 10 p.toNat
  let down := Nat.pow 10 (-p).toNat
  let num := r.mid * down
  let den := r.scale * up
  let d := num / den
  let lower := r.holds (d * up) down
  let upper := r.holds ((d + 1) * up) down
  let twice := 2 * (num % den)
  if lower && upper then
    some ⟨if twice < den ∨ (twice = den ∧ d % 2 = 0) then d else d + 1, p⟩
  else if lower then some ⟨d, p⟩
  else if upper then some ⟨d + 1, p⟩
  else none

def shortest (x : Double) : Decimal :=
  let r := Rounding.ofDouble x
  if r.mid = 0 then ⟨0, 0⟩
  else
    let e := leadingExponent r.mid r.scale
    let grids := (List.range 17).map fun (n : Nat) ↦ r.gridPoint? (e - n)
    (grids.findSome? id).getD ⟨r.mid / r.scale, 0⟩

end Aquifer.Number
