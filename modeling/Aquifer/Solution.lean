import Aquifer.Analytic.Fetkovich
import Aquifer.Keyed

namespace Aquifer

inductive SolutionKind where
  | fetkovich
  | carterTracy
  | numerical
  deriving DecidableEq, Repr

namespace SolutionKind

def code : SolutionKind → Int
  | .fetkovich => 1
  | .carterTracy => 2
  | .numerical => 3

def name : SolutionKind → String
  | .fetkovich => "FETKOVICH"
  | .carterTracy => "CARTER_TRACY"
  | .numerical => "NUMERICAL"

def ofCode (n : Int) : Except Fault SolutionKind :=
  match [fetkovich, carterTracy, numerical].find? (·.code == n) with
  | some k => .ok k
  | none => .error (.badSolutionCode n)

end SolutionKind

structure FetkovichConstants where
  initialVolume : Double
  productivity : Double
  timeConstant : Double
  deriving DecidableEq, BEq

def Fetkovich.constants (a : Fetkovich) : Except Fault FetkovichConstants :=
  a.timeConstant.map fun t ↦ ⟨a.initialVolume, a.productivity, t⟩

structure Solution where
  aquifer : Int := 0
  kind : SolutionKind := .fetkovich
  pressure : Double := 0.0
  fluxRate : Double := 0.0
  volume : Double := 0.0
  initialPressure : Double := 0.0
  datumDepth : Double := 0.0
  fetkovich : Option FetkovichConstants := none
  deriving DecidableEq, BEq

def Solution.summary (s : Solution) (keyword : String) : Double :=
  match keyword with
  | "AAQR" | "ANQR" => s.fluxRate
  | "AAQT" | "ANQT" => s.volume
  | "AAQP" | "ANQP" => s.pressure
  | _ => 0.0

abbrev Solutions := Keyed Int Solution

end Aquifer
