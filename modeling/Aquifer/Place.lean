import Aquifer.Fault

namespace Aquifer

def place? (n : Nat) (i : Int) : Option Nat :=
  if 0 ≤ i ∧ i < n then some i.toNat
  else if -n ≤ i ∧ i < 0 then some (n + i).toNat
  else none

def atPlace {α : Type} (xs : List α) (i : Int) : Except Fault α :=
  match (place? xs.length i).bind (xs[·]?) with
  | some x => .ok x
  | none => .error .noSuchPlace

/-- A bound of a cut among `n` places: counted from the start and kept within the sequence. -/
def cutBound (n : Nat) (i : Int) : Nat :=
  if 0 ≤ i then min i.toNat n else (n + i).toNat

def cut {α : Type} (xs : List α) (first last : Int) : List α :=
  (xs.take (cutBound xs.length last)).drop (cutBound xs.length first)

theorem place?_natCast {n i : Nat} (h : i < n) : place? n i = some i := by
  simp [place?, h]

end Aquifer
