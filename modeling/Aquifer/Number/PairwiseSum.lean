import Aquifer.Number.Double

namespace Aquifer.Number

def sumFrom (start : Double) (xs : List Double) : Double := xs.foldl (· + ·) start

/-- The rows of eight terms added entry by entry; terms after the last full row are left over. -/
def addRows : List Double → List Double → List Double × List Double
  | acc, a :: b :: c :: d :: e :: f :: g :: h :: rest =>
    addRows (List.zipWith (· + ·) acc [a, b, c, d, e, f, g, h]) rest
  | acc, rest => (acc, rest)

def sumBlock (xs : List Double) : Double :=
  match addRows (xs.take 8) (xs.drop 8) with
  | ([a, b, c, d, e, f, g, h], rest) =>
    sumFrom (((a + b) + (c + d)) + ((e + f) + (g + h))) rest
  | (_, rest) => sumFrom (-0.0) rest

def blockSum (xs : List Double) : Double :=
  if xs.length < 8 then sumFrom (-0.0) xs
  else if xs.length ≤ 128 then sumBlock xs
  else
    let half := xs.length / 2
    let split := half - half % 8
    blockSum (xs.take split) + blockSum (xs.drop split)
termination_by xs.length
decreasing_by
  · simp only [List.length_take]; omega
  · simp only [List.length_drop]; omega

def pairwiseSum (xs : List Double) : Double := 0.0 + blockSum xs

end Aquifer.Number
