import Aquifer.Columns.Table
import Aquifer.Configuration

namespace Aquifer

namespace Table

def fetkovich : Table Fetkovich :=
  ((int "id").pair <| (real "datum_depth").pair <| (real "initial_volume").pair <|
    (real "total_compressibility").pair <| (real "productivity_index").pair <|
    (int "pvt_table").pair <| (optional "initial_pressure").pair <|
    (real "salinity").pair (optional "temperature")).map
    (fun (id, depth, volume, compressibility, productivity, pvt, pressure, salinity, temp) ↦
      ⟨id, depth, volume, compressibility, productivity, pvt, pressure, salinity, temp⟩)
    fun a ↦ (a.id, a.datumDepth, a.initialVolume, a.compressibility, a.productivity, a.pvtTable,
      a.initialPressure, a.salinity, a.temperature)

def carterTracyParameters : Table CarterTracy :=
  ((int "id").pair <| (real "datum_depth").pair <| (real "permeability").pair <|
    (real "porosity").pair <| (real "total_compressibility").pair <| (real "inner_radius").pair <|
    (real "thickness").pair <| (real "influence_angle").pair <| (int "pvt_table").pair <|
    (int "influence_table").pair (optional "initial_pressure")).map
    (fun (id, depth, permeability, porosity, compressibility, radius, thickness, angle, pvt,
        table, pressure) ↦
      ⟨id, depth, permeability, porosity, compressibility, radius, thickness, angle, pvt, table,
        pressure, [], []⟩)
    fun a ↦ (a.id, a.datumDepth, a.permeability, a.porosity, a.compressibility, a.innerRadius,
      a.thickness, a.influenceAngle, a.pvtTable, a.influenceTable, a.initialPressure)

/-- Where lists laid end to end begin, and where the last one ends. -/
def offsets (first : Int) : List (List Double) → List Int
  | [] => [first]
  | xs :: xss => first :: offsets (first + xs.length) xss

def bounds (s : Section) (name : String) (n : Nat) : Except Fault (Int × Int) := do
  return (← (← s.entry name n).toInt, ← (← s.entry name (n + 1)).toInt)

def carterTracy : Table CarterTracy where
  columns as := do
    let times := as.map (·.times)
    let pressures := as.map (·.pressures)
    return (← carterTracyParameters.columns as) ++
      [("time_offsets", ← Column.ofInts (offsets 0 times)),
        ("pressure_offsets", ← Column.ofInts (offsets 0 pressures)),
        ("dimensionless_time", .reals times.flatten),
        ("dimensionless_pressure", .reals pressures.flatten)]
  row s n := do
    let (t₀, t₁) ← bounds s "time_offsets" n
    let (p₀, p₁) ← bounds s "pressure_offsets" n
    let a ← carterTracyParameters.row s n
    return { a with
      times := ← s.reals "dimensionless_time" t₀ t₁
      pressures := ← s.reals "dimensionless_pressure" p₀ p₁ }

def constantFlux : Table ConstantFlux :=
  ((int "id").pair <| (real "flux").pair <| (real "salt_concentration").pair <|
    (optional "temperature").pair (optional "datum_pressure")).map
    (fun (id, flux, salt, temp, pressure) ↦ ⟨id, flux, salt, temp, pressure⟩)
    fun a ↦ (a.id, a.flux, a.saltConcentration, a.temperature, a.datumPressure)

def place : Table (Coord × Int) :=
  ((int "i").pair <| (int "j").pair <| (int "k").pair (int "global_index")).map
    (fun (i, j, k, n) ↦ (⟨i, j, k⟩, n))
    fun (c, n) ↦ (c.i, c.j, c.k, n)

def face : Table Face := (int "face").refine Face.ofCode Face.code

def storageCell : Table StorageCell :=
  ((int "aquifer_id").pair <| place.pair <| (real "area").pair <| (real "length").pair <|
    (real "permeability").pair <| (real "porosity").pair <| (real "depth").pair <|
    (int "pvttable").pair <| (int "sattable").pair (optional "init_pressure")).map
    (fun (aquifer, (place, index), area, length, permeability, porosity, depth, pvt, sat,
        pressure) ↦
      ⟨aquifer, place, index, area, length, permeability, porosity, depth, pvt, sat, pressure⟩)
    fun c ↦ (c.aquifer, (c.place, c.index), c.area, c.length, c.permeability, c.porosity, c.depth,
      c.pvtTable, c.satTable, c.initialPressure)

def coupling : Table Coupling :=
  ((int "aquifer_id").pair <| place.pair <| face.pair <| (real "trans_multi").pair <|
    (int "trans_option").pair <| (flag "connect_active_cell").pair <|
    (real "ve_frac_relperm").pair (real "ve_frac_cappress")).map
    (fun (aquifer, (place, index), face, multiplier, option, internal, relperm, capillary) ↦
      ⟨aquifer, place, index, face, multiplier, option, internal, relperm, capillary⟩)
    fun c ↦ (c.aquifer, (c.place, c.index), c.face, c.multiplier, c.option, c.internal,
      c.relpermFraction, c.capillaryFraction)

def influxCell : Table InfluxCell :=
  ((int "aquifer_id").pair <| (int "global_index").pair <| (real "influx_coeff").pair face).map
    (fun (aquifer, index, coefficient, face) ↦ ⟨aquifer, index, coefficient, face⟩)
    fun c ↦ (c.aquifer, c.index, c.coefficient, c.face)

end Table

end Aquifer
