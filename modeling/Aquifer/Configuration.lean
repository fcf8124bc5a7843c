import Aquifer.Analytic.Collection
import Aquifer.Analytic.Influx
import Aquifer.Numerical.Builder

namespace Aquifer

@[ext] structure Configuration where
  fetkovich : Collection Fetkovich := ∅
  carterTracy : Collection CarterTracy := ∅
  constantFlux : Collection ConstantFlux := ∅
  numerical : Registry := ∅
  influx : Influx := ∅
  deriving BEq

inductive AnalyticAquifer where
  | fetkovich (a : Fetkovich)
  | carterTracy (a : CarterTracy)
  | constantFlux (a : ConstantFlux)
  deriving DecidableEq

def AnalyticAquifer.id : AnalyticAquifer → Int
  | .fetkovich a => a.id
  | .carterTracy a => a.id
  | .constantFlux a => a.id

namespace Configuration

def empty : Configuration := {}

instance : EmptyCollection Configuration := ⟨empty⟩

/-- The aquifers that a deck declares. Influx cells are not among them. -/
def ofDeck (d : Deck) (g : Grid) (p : Properties) (tables : Option InfluenceTables)
    (override : Option ActiveMap) : Traced Configuration := do
  let fetkovich ← d.fetkovich
  let carterTracy ← d.carterTracy tables
  let constantFlux ← d.constantFlux
  let numerical ← (Registry.ofDeck d g p override).reported
  Traced.note (.configured fetkovich.size carterTracy.size constantFlux.size numerical.size)
  return { fetkovich, carterTracy, constantFlux, numerical }

def loadInflux (c : Configuration) (d : Deck) (g : Grid) : Traced Configuration := do
  return { c with influx := ← (Influx.ofDeck d g).reported }

inductive Call where
  | ofDeck (d : Deck) (g : Grid) (p : Properties) (tables : Option InfluenceTables)
      (override : Option ActiveMap)
  | loadInflux (d : Deck) (g : Grid)
  | replaceNumerical (r : Registry)
  | addFetkovich (a : Fetkovich)
  | addCarterTracy (a : CarterTracy)
  | addConstantFlux (a : ConstantFlux)
  | schedule (r : Record)

def Call.step : Call → Attempt Configuration Unit
  | .ofDeck d g p tables override =>
    Attempt.assign (Configuration.ofDeck d g p tables override).result
  | .loadInflux d g => do Attempt.assign ((← get).loadInflux d g).result
  | .replaceNumerical r => modify fun c ↦ { c with numerical := r }
  | .addFetkovich a => modify fun c ↦ { c with fetkovich := c.fetkovich.add a }
  | .addCarterTracy a => modify fun c ↦ { c with carterTracy := c.carterTracy.add a }
  | .addConstantFlux a => modify fun c ↦ { c with constantFlux := c.constantFlux.add a }
  | .schedule r => do
    let c ← get
    Attempt.assign ((c.constantFlux.schedule r).map fun q ↦ { c with constantFlux := q })

def after (calls : List Call) : Configuration :=
  calls.foldl (fun c call ↦ call.step.leaves c) ∅

def hasAnalytic (c : Configuration) : Bool :=
  0 < c.fetkovich.size || 0 < c.carterTracy.size || 0 < c.constantFlux.size

def hasNumerical (c : Configuration) : Bool := 0 < c.numerical.size

def isActive (c : Configuration) : Bool := c.hasAnalytic || c.hasNumerical

def has (c : Configuration) (id : Int) : Bool :=
  c.fetkovich.has id || c.carterTracy.has id || c.constantFlux.has id || c.numerical.has id

def analytic (c : Configuration) : List AnalyticAquifer :=
  c.fetkovich.toList.map .fetkovich ++ c.carterTracy.toList.map .carterTracy ++
    c.constantFlux.toList.map .constantFlux

def analyticWith (c : Configuration) (id : Int) : List AnalyticAquifer :=
  c.analytic.filter (·.id == id)

def problems (c : Configuration) : Except Fault (List String) := do
  let fetkovich ← Component.problems c.fetkovich
  let carterTracy ← Component.problems c.carterTracy
  let constantFlux ← Component.problems c.constantFlux
  let numerical ← Component.problems c.numerical
  let influx ← Component.problems c.influx
  return fetkovich ++ carterTracy ++ constantFlux ++ numerical ++ influx

def validate (c : Configuration) : Except Fault Unit := do
  let ps ← c.problems
  if ps.isEmpty then .ok () else .error (.invalid "aquifer configuration" ps)

def text (c : Configuration) : String :=
  s!"AquiferConfig(fetp={c.fetkovich.size}, ct={c.carterTracy.size}, " ++
    s!"aquflux={c.constantFlux.size}, numerical={c.numerical.size}, " ++
    s!"connections={c.influx.size})"

end Configuration

end Aquifer
