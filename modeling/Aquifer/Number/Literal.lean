import Aquifer.Number.Text
import Aquifer.Text.Blank
import Aquifer.Text.Digit

namespace Aquifer.Number

open Text

def isSpace (c : Char) : Bool := isBlank c && !(0x1C ≤ c.toNat && c.toNat ≤ 0x1F)

def plain (s : String) : List Char :=
  let cs := ((s.toList.dropWhile isSpace).reverse.dropWhile isSpace).reverse
  cs.map fun c ↦ ((digit? c).map Nat.digitChar).getD c

def splitSign : List Char → Bool × List Char
  | '-' :: cs => (true, cs)
  | '+' :: cs => (false, cs)
  | cs => (false, cs)

/-- The text without its underscores, which must each stand between two digits. -/
def dropUnderscores : (previous : Char) → List Char → Option (List Char)
  | _, [] => some []
  | p, '_' :: c :: cs =>
    if p.isDigit && c.isDigit then (dropUnderscores c cs).map (c :: ·) else none
  | _, ['_'] => none
  | _, c :: cs => (dropUnderscores c cs).map (c :: ·)

def digitsValue (ds : List Char) : Nat := ds.foldl (fun n d ↦ 10 * n + (d.toNat - 48)) 0

def readInt? (s : String) : Option Int := do
  let (negative, cs) := splitSign (plain s)
  let ds ← dropUnderscores ' ' cs
  if ds.isEmpty || !ds.all Char.isDigit || maxDigits < ds.length then none
  else if negative then some (-(digitsValue ds : Int)) else some (digitsValue ds)

/-- The double nearest to `digits · 10 ^ exponent`. Numbers far beyond the doubles' range are
settled by their leading digit alone. -/
def nearest (digits : Nat) (exponent : Int) : Double :=
  let leading := exponent + (Nat.toDigits 10 digits).length
  if digits = 0 ∨ leading < -400 then 0.0
  else if 400 < leading then .infinity
  else OfScientific.ofScientific digits (exponent < 0) exponent.natAbs

def readExponent? : List Char → Option Int
  | [] => some 0
  | e :: cs =>
    let (negative, ds) := splitSign cs
    if e.toLower != 'e' || ds.isEmpty || !ds.all Char.isDigit then none
    else if negative then some (-(digitsValue ds : Int)) else some (digitsValue ds)

def readDecimal? (cs : List Char) : Option Double := do
  let whole := cs.takeWhile Char.isDigit
  let rest := cs.dropWhile Char.isDigit
  let (fraction, rest) := match rest with
    | '.' :: rest => (rest.takeWhile Char.isDigit, rest.dropWhile Char.isDigit)
    | rest => ([], rest)
  if whole.isEmpty && fraction.isEmpty then none
  else
    let e ← readExponent? rest
    some (nearest (digitsValue (whole ++ fraction)) (e - fraction.length))

def readReal? (s : String) : Option Double := do
  let cs ← dropUnderscores ' ' (plain s)
  let (negative, cs) := splitSign cs
  let x ← match String.ofList (cs.map Char.toLower) with
    | "inf" | "infinity" => some .infinity
    | "nan" => some .nan
    | _ => readDecimal? cs
  some (if negative then -x else x)

end Aquifer.Number
