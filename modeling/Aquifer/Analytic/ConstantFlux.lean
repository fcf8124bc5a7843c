import Aquifer.Deck.Record

namespace Aquifer

structure ConstantFlux where
  id : Int
  flux : Double
  saltConcentration : Double := 0.0
  temperature : Option Double := none
  datumPressure : Option Double := none
  deriving DecidableEq, BEq

def ConstantFlux.ofRecord (r : Record) : Except Fault ConstantFlux := do
  return {
    id := ← r.int "AQUIFER_ID"
    flux := ← r.si "FLUX"
    saltConcentration := ← r.si "SC_0"
    temperature := ← r.givenSI "TEMP"
    datumPressure := ← r.givenSI "PRESSURE" }

end Aquifer
