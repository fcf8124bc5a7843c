import Aquifer.Text.CaseTable

namespace Aquifer.Text

def CaseRun.image? (r : CaseRun) (n : Nat) : Option Nat :=
  if r.first ≤ n ∧ n ≤ r.last ∧ (n - r.first) % r.step = 0 then some (n + r.shift).toNat else none

def upperChar (c : Char) : List Char :=
  match caseExpansions.lookup c.toNat with
  | some ns => ns.map Char.ofNat
  | none => [((caseRuns.findSome? (·.image? c.toNat)).map Char.ofNat).getD c]

def upperChars (cs : List Char) : List Char := cs.flatMap upperChar

def upper (s : String) : String := String.ofList (upperChars s.toList)

end Aquifer.Text
