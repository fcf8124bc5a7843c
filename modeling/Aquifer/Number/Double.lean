
namespace Aquifer

/-- A double. Equality compares words, `==` numbers. -/
structure Double where
  bits : UInt64
  deriving DecidableEq

namespace Double

def magnitude (x : Double) : UInt64 := x.bits &&& 0x7FFFFFFFFFFFFFFF

def isNegative (x : Double) : Bool := x.magnitude != x.bits

def infinity : Double := ⟨0x7FF0000000000000⟩

def nan : Double := ⟨0x7FF8000000000000⟩

def invalid : Double := ⟨0xFFF8000000000000⟩

def isNaN (x : Double) : Bool := infinity.bits < x.magnitude

def isInf (x : Double) : Bool := x.magnitude == infinity.bits

def isFinite (x : Double) : Bool := x.magnitude < infinity.bits

def quiet (x : Double) : Double := ⟨x.bits ||| 0x0008000000000000⟩

/-- The value in floating point arithmetic, where all NaNs are one. -/
def toFloat (x : Double) : Float := .ofBits x.bits

def ofFloat (x : Float) : Double := if x.isNaN then invalid else ⟨x.toBits⟩

def ofInt (n : Int) : Double := ofFloat (.ofInt n)

/-- An operation of arithmetic; a NaN passes through it. -/
def combine (op : Float → Float → Float) (x y : Double) : Double :=
  if x.isNaN then x.quiet
  else if y.isNaN then y.quiet
  else ofFloat (op x.toFloat y.toFloat)

instance : Inhabited Double := ⟨⟨0⟩⟩
instance : OfScientific Double := ⟨fun m s e ↦ ofFloat (OfScientific.ofScientific m s e)⟩
instance : Add Double := ⟨combine (· + ·)⟩
instance : Sub Double := ⟨combine (· - ·)⟩
instance : Mul Double := ⟨combine (· * ·)⟩
instance : Div Double := ⟨combine (· / ·)⟩
instance : Neg Double := ⟨fun x ↦ ⟨x.bits ^^^ 0x8000000000000000⟩⟩
instance : BEq Double := ⟨fun x y ↦ x.toFloat == y.toFloat⟩
instance : LT Double := ⟨fun x y ↦ x.toFloat < y.toFloat⟩
instance : LE Double := ⟨fun x y ↦ x.toFloat ≤ y.toFloat⟩

instance (x y : Double) : Decidable (x < y) :=
  inferInstanceAs (Decidable (x.toFloat < y.toFloat))

instance (x y : Double) : Decidable (x ≤ y) :=
  inferInstanceAs (Decidable (x.toFloat ≤ y.toFloat))

end Double

end Aquifer
