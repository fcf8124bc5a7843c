import Aquifer.Number.Shortest

namespace Aquifer.Number

/-- The greatest number of digits of an integer that is read from a text or written as one. -/
def maxDigits : Nat := 4300

def digitsWithin : (d n : Nat) → Bool
  | 0, n => n == 0
  | d + 1, n => n < 10 || digitsWithin d (n / 10)

def intText? (n : Int) : Option String :=
  if digitsWithin maxDigits n.natAbs then some (toString n) else none

structure Layout where
  /-- The least exponent of a leading digit that is written positionally. -/
  least : Int
  /-- The first exponent of a leading digit that is written with an exponent again. -/
  first : Int
  exponentWidth : Nat

/-- Numbers are positional from 0.0001 to below 10 ^ 16; an exponent has a sign and two digits. -/
def layout : Layout := ⟨-4, 16, 2⟩

def significant (ds : List Char) : List Char :=
  match (ds.reverse.dropWhile (· == '0')).reverse with
  | [] => ['0']
  | ds => ds

def exponentText (l : Layout) (e : Int) : List Char :=
  let ds := Nat.toDigits 10 e.natAbs
  (if e < 0 then '-' else '+') :: (List.replicate (l.exponentWidth - ds.length) '0' ++ ds)

def layOut (l : Layout) (ds : List Char) (e : Int) : List Char :=
  if l.least ≤ e ∧ e < l.first then
    if e < 0 then '0' :: '.' :: (List.replicate (-e - 1).toNat '0' ++ ds)
    else
      let whole := e.toNat + 1
      ds.take whole ++ List.replicate (whole - ds.length) '0' ++ '.' ::
        (if ds.length ≤ whole then ['0'] else ds.drop whole)
  else
    match ds with
    | [] => []
    | [d] => d :: 'e' :: exponentText l e
    | d :: ds => d :: '.' :: (ds ++ 'e' :: exponentText l e)

def magnitudeText (x : Double) : List Char :=
  let d := shortest x
  let ds := Nat.toDigits 10 d.digits
  if d.digits = 0 then layOut layout ['0'] 0
  else layOut layout (significant ds) (d.exponent + ds.length - 1)

def realText (x : Double) : String :=
  if x.isNaN then "nan"
  else
    let sign := if x.isNegative then ['-'] else []
    String.ofList (sign ++ if x.isInf then ['i', 'n', 'f'] else magnitudeText x)

end Aquifer.Number
