import Aquifer.Binary.Codec
import Aquifer.Configuration
import Aquifer.Solution

namespace Aquifer

namespace Codec

def fetkovich : Codec Fetkovich :=
  (int.pair <| real.pair <| real.pair <| real.pair <| real.pair <| int.pair <|
    (optional real).pair <| real.pair (optional real)).map
    (fun (id, depth, volume, compressibility, productivity, pvt, pressure, salinity, temp) ↦
      ⟨id, depth, volume, compressibility, productivity, pvt, pressure, salinity, temp⟩)
    fun a ↦ (a.id, a.datumDepth, a.initialVolume, a.compressibility, a.productivity, a.pvtTable,
      a.initialPressure, a.salinity, a.temperature)

def carterTracy : Codec CarterTracy :=
  (int.pair <| real.pair <| real.pair <| real.pair <| real.pair <| real.pair <| real.pair <|
    real.pair <| int.pair <| int.pair <| (optional real).pair <| reals.pair reals).map
    (fun (id, depth, permeability, porosity, compressibility, radius, thickness, angle, pvt,
        table, pressure, times, pressures) ↦
      ⟨id, depth, permeability, porosity, compressibility, radius, thickness, angle, pvt, table,
        pressure, times, pressures⟩)
    fun a ↦ (a.id, a.datumDepth, a.permeability, a.porosity, a.compressibility, a.innerRadius,
      a.thickness, a.influenceAngle, a.pvtTable, a.influenceTable, a.initialPressure, a.times,
      a.pressures)

def constantFlux : Codec ConstantFlux :=
  (int.pair <| real.pair <| real.pair <| (optional real).pair (optional real)).map
    (fun (id, flux, salt, temp, pressure) ↦ ⟨id, flux, salt, temp, pressure⟩)
    fun a ↦ (a.id, a.flux, a.saltConcentration, a.temperature, a.datumPressure)

def cellNumbers : Codec (Coord × Int) :=
  ints.refine (fun _ xs ↦ match xs with
    | [i, j, k, n] => .ok (⟨i, j, k⟩, n)
    | _ => .error .entryCount)
    fun (c, n) ↦ [c.i, c.j, c.k, n]

def storageCell : Codec StorageCell :=
  (int.pair <| cellNumbers.pair <| real.pair <| real.pair <| real.pair <| real.pair <|
    real.pair <| int.pair <| int.pair (optional real)).map
    (fun (aquifer, (place, index), area, length, permeability, porosity, depth, pvt, sat,
        pressure) ↦
      ⟨aquifer, place, index, area, length, permeability, porosity, depth, pvt, sat, pressure⟩)
    fun c ↦ (c.aquifer, (c.place, c.index), c.area, c.length, c.permeability, c.porosity, c.depth,
      c.pvtTable, c.satTable, c.initialPressure)

def couplingNumbers : Codec (Coord × Int × Face × Int) :=
  ints.refine (fun _ xs ↦ match xs with
    | [i, j, k, n, f, option] => do return (⟨i, j, k⟩, n, ← Face.ofCode f, option)
    | _ => .error .entryCount)
    fun (c, n, f, option) ↦ [c.i, c.j, c.k, n, f.code, option]

def coupling : Codec Coupling :=
  (int.pair <| couplingNumbers.pair <| real.pair <| flag.pair <| real.pair real).map
    (fun (aquifer, (place, index, face, option), multiplier, internal, relperm, capillary) ↦
      ⟨aquifer, place, index, face, multiplier, option, internal, relperm, capillary⟩)
    fun c ↦ (c.aquifer, (c.place, c.index, c.face, c.option), c.multiplier, c.internal,
      c.relpermFraction, c.capillaryFraction)

def numericalAquifer : Codec NumericalAquifer :=
  (int.pair <| (counted storageCell).pair (counted coupling)).map
    (fun (id, cells, couplings) ↦ ⟨id, cells, couplings⟩)
    fun a ↦ (a.id, a.cells, a.couplings)

def collection {α : Type} [AnalyticKind α] (a : Codec α) : Codec (Collection α) :=
  (counted a).map Collection.ofList Collection.toList

def registry : Codec Registry :=
  (counted numericalAquifer).map
    (fun as ↦ ⟨Keyed.ofList (as.map fun a ↦ (a.id, a))⟩) Registry.toList

def influxRows (aquifer : Int) : List Int → List Int → List Double → Except Fault (List InfluxCell)
  | n :: ns, f :: fs, x :: xs => do
    let face ← Face.ofCode f
    return ⟨aquifer, n, x, face⟩ :: (← influxRows aquifer ns fs xs)
  | _, _, _ => .ok []

def influxColumns : Codec (Int × List InfluxCell) :=
  (int.pair <| ints.pair <| ints.pair reals).refine
    (fun records (aquifer, numbers, faces, coefficients) ↦
      if numbers.length = faces.length ∧ faces.length = coefficients.length then do
        return (aquifer, ← influxRows aquifer numbers faces coefficients)
      else .error (.malformed (.unevenConnections aquifer) (some records)))
    fun (aquifer, cs) ↦ (aquifer, cs.map (·.index), cs.map (·.face.code), cs.map (·.coefficient))

def influx : Codec Influx :=
  (counted influxColumns).map (fun es ↦ ⟨Keyed.ofList es⟩) fun x ↦ x.cells.entries

def configuration : Codec Configuration :=
  ((collection fetkovich).pair <| (collection carterTracy).pair <|
    (collection constantFlux).pair <| registry.pair influx).map
    (fun (f, c, q, n, x) ↦ ⟨f, c, q, n, x⟩)
    fun c ↦ (c.fetkovich, c.carterTracy, c.constantFlux, c.numerical, c.influx)

def solutionKind : Codec SolutionKind := int.refine (fun _ ↦ SolutionKind.ofCode) SolutionKind.code

def fetkovichConstants : Codec FetkovichConstants :=
  reals.refine (fun _ xs ↦ match xs with
    | [v, j, t] => .ok ⟨v, j, t⟩
    | _ => .error .entryCount)
    fun c ↦ [c.initialVolume, c.productivity, c.timeConstant]

def solutionValues : Codec (Double × Double × Double × Double × Double) :=
  reals.refine (fun _ xs ↦ match xs with
    | [p, q, v, p₀, d] => .ok (p, q, v, p₀, d)
    | _ => .error .entryCount)
    fun (p, q, v, p₀, d) ↦ [p, q, v, p₀, d]

def solution : Codec Solution :=
  (int.pair <| solutionKind.pair <| solutionValues.pair (optional fetkovichConstants)).map
    (fun (aquifer, kind, (p, q, v, p₀, d), constants) ↦ ⟨aquifer, kind, p, q, v, p₀, d, constants⟩)
    fun s ↦ (s.aquifer, s.kind,
      (s.pressure, s.fluxRate, s.volume, s.initialPressure, s.datumDepth), s.fetkovich)

def solutions : Codec Solutions := (counted (int.pair solution)).map Keyed.ofList Keyed.entries

end Codec

end Aquifer
