import Aquifer.Binary.Bytes

namespace Aquifer

namespace Binary

def hexDigits (b : UInt8) : List Char :=
  [Nat.digitChar (b.toNat / 16), Nat.digitChar (b.toNat % 16)]

def hexValue? (c : Char) : Option Nat :=
  if '0' ≤ c ∧ c ≤ '9' then some (c.toNat - '0'.toNat)
  else if 'a' ≤ c ∧ c ≤ 'f' then some (c.toNat - 'a'.toNat + 10)
  else none

def hexChars (bs : Bytes) : List Char := bs.flatMap hexDigits

def ofHexChars? : List Char → Option Bytes
  | [] => some []
  | a :: b :: cs => do
    let x ← hexValue? a
    let y ← hexValue? b
    return UInt8.ofNat (16 * x + y) :: (← ofHexChars? cs)
  | [_] => none

def hex (bs : Bytes) : String := String.ofList (hexChars bs)

def ofHex? (s : String) : Option Bytes := ofHexChars? s.toList

end Binary

end Aquifer
