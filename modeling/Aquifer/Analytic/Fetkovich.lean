import Aquifer.Component
import Aquifer.Deck.Record

namespace Aquifer

structure Fetkovich where
  id : Int
  datumDepth : Double
  initialVolume : Double
  compressibility : Double
  productivity : Double
  pvtTable : Int := 1
  initialPressure : Option Double := none
  salinity : Double := 0.0
  temperature : Option Double := none
  deriving DecidableEq, BEq

namespace Fetkovich

def ofRecord (r : Record) : Except Fault Fetkovich := do
  return {
    id := ← r.int "AQUIFER_ID"
    datumDepth := ← r.si "DAT_DEPTH"
    initialVolume := ← r.si "V0"
    compressibility := ← r.si "C_T"
    productivity := ← r.si "PI"
    pvtTable := ← r.int "TABLE_NUM_WATER_PRESS"
    initialPressure := ← r.givenSI "P0"
    salinity := ← r.si "SALINITY"
    temperature := ← r.givenSI "TEMP" }

def timeConstant (a : Fetkovich) : Except Fault Double :=
  if a.productivity == 0.0 then .error .divisionByZero
  else .ok (a.compressibility * a.initialVolume / a.productivity)

def problems (a : Fetkovich) : Except Fault (List String) := do
  let check := Component.problem "Fetkovich" a.id
  return (← check (a.productivity ≤ 0.0) "productivity index must be positive") ++
    (← check (a.initialVolume ≤ 0.0) "initial volume must be positive") ++
    (← check (a.compressibility ≤ 0.0) "compressibility must be positive")

end Fetkovich

end Aquifer
