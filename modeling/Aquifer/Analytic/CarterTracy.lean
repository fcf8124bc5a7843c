import Aquifer.Component
import Aquifer.Deck.Record
import Aquifer.Keyed

namespace Aquifer

abbrev InfluenceTables := Int → Except Fault (List Double × List Double)

def InfluenceTables.ofList (ts : List (Int × List Double × List Double)) : InfluenceTables :=
  fun n ↦ match (Keyed.ofList ts).get? n with
  | some t => .ok t
  | none => .error .noSuchKey

/-- A Carter-Tracy aquifer, in SI. Without an initial pressure it starts in equilibrium. -/
structure CarterTracy where
  id : Int
  datumDepth : Double
  permeability : Double
  porosity : Double
  compressibility : Double
  innerRadius : Double
  thickness : Double
  influenceAngle : Double := 360.0
  pvtTable : Int := 1
  influenceTable : Int := 1
  initialPressure : Option Double := none
  times : List Double := []
  pressures : List Double := []
  deriving DecidableEq, BEq

namespace CarterTracy

/-- The table with a number; without tables every aquifer has the empty one. -/
def influence (tables : Option InfluenceTables) (n : Int) :
    Except Fault (List Double × List Double) :=
  match tables with
  | none => .ok ([], [])
  | some source => source n

def ofRecord (tables : Option InfluenceTables) (r : Record) : Except Fault CarterTracy := do
  let n ← r.int "TABLE_NUM_INFLUENCE_FN"
  let (times, pressures) ← influence tables n
  return {
    id := ← r.int "AQUIFER_ID"
    datumDepth := ← r.si "DAT_DEPTH"
    permeability := ← r.si "PERM_AQ"
    porosity := ← r.si "PORO_AQ"
    compressibility := ← r.si "C_T"
    innerRadius := ← r.si "RAD"
    thickness := ← r.si "THICKNESS_AQ"
    influenceAngle := ← r.si "INFLUENCE_ANGLE"
    pvtTable := ← r.int "TABLE_NUM_WATER_PRESS"
    influenceTable := n
    initialPressure := ← r.givenSI "P_INI"
    times := times
    pressures := pressures }

def influxFactor : Double := 6.283

/-- The influx constant `c₂ · h · θ / 360 · φ · C_t · r²`; the square of the radius must be a
double. -/
def influxConstant (a : CarterTracy) : Except Fault Double :=
  let square := a.innerRadius * a.innerRadius
  if a.innerRadius.isFinite && square.isInf then .error .tooLarge
  else .ok (influxFactor * a.thickness * a.influenceAngle / 360.0 * a.porosity *
    a.compressibility * square)

def problems (a : CarterTracy) : Except Fault (List String) := do
  let check := Component.problem "Carter-Tracy" a.id
  return (← check (a.permeability ≤ 0.0) "permeability must be positive") ++
    (← check (!(0.0 < a.porosity && a.porosity ≤ 1.0)) "porosity must be in (0, 1]") ++
    (← check (a.innerRadius ≤ 0.0 || a.thickness ≤ 0.0)
      "radius and thickness must be positive") ++
    (← check (!(0.0 < a.influenceAngle && a.influenceAngle ≤ 360.0))
      "influence angle must be in (0, 360]") ++
    (← check (a.times.length != a.pressures.length) "influence table columns differ")

end CarterTracy

end Aquifer
