import Aquifer.Fault
import Aquifer.Number.Double

namespace Aquifer

inductive Dimension where
  | one
  | length
  | area
  | volume
  | pressure
  | compressibility
  | permeability
  | temperature
  | salinity
  | fluxPerArea
  | productivity
  deriving DecidableEq, Repr

def Dimension.all : List Dimension :=
  [.one, .length, .area, .volume, .pressure, .compressibility, .permeability, .temperature,
    .salinity, .fluxPerArea, .productivity]

def Dimension.name : Dimension → String
  | .one => "1"
  | .length => "Length"
  | .area => "Area"
  | .volume => "Volume"
  | .pressure => "Pressure"
  | .compressibility => "Compressibility"
  | .permeability => "Permeability"
  | .temperature => "Temperature"
  | .salinity => "Salinity"
  | .fluxPerArea => "FluxPerArea"
  | .productivity => "ProductivityIndex"

def Dimension.ofName (name : String) : Except Fault Dimension :=
  match Dimension.all.find? (·.name == name) with
  | some d => .ok d
  | none => .error (.unknownDimension name)

inductive UnitSystem where
  | metric
  | field
  deriving DecidableEq, Repr

namespace UnitSystem

def day : Double := 86400.0

def bar : Double := 1.0e5

def psi : Double := 6894.75729

def foot : Double := 0.3048

def barrel : Double := 0.158987294928

def millidarcy : Double := 9.869233e-16

def pound : Double := 0.45359237

/-- The scale and the offset that turn a value into SI. -/
def conversion : UnitSystem → Dimension → Double × Double
  | _, .one => (1.0, 0.0)
  | .metric, .length | .metric, .area | .metric, .volume => (1.0, 0.0)
  | .metric, .pressure => (bar, 0.0)
  | .metric, .compressibility => (1.0 / bar, 0.0)
  | _, .permeability => (millidarcy, 0.0)
  | .metric, .temperature => (1.0, 273.15)
  | .metric, .salinity => (1.0, 0.0)
  | .metric, .fluxPerArea => (1.0 / day, 0.0)
  | .metric, .productivity => (1.0 / (day * bar), 0.0)
  | .field, .length => (foot, 0.0)
  | .field, .area => (foot * foot, 0.0)
  | .field, .volume => (barrel, 0.0)
  | .field, .pressure => (psi, 0.0)
  | .field, .compressibility => (1.0 / psi, 0.0)
  | .field, .temperature => (5.0 / 9.0, 273.15 - 32.0 * 5.0 / 9.0)
  | .field, .salinity => (pound / barrel, 0.0)
  | .field, .fluxPerArea => (barrel / (day * (foot * foot)), 0.0)
  | .field, .productivity => (barrel / (day * psi), 0.0)

def toSI (u : UnitSystem) (d : Dimension) (x : Double) : Double :=
  let (scale, offset) := u.conversion d
  x * scale + offset

def ofSI (u : UnitSystem) (d : Dimension) (x : Double) : Double :=
  let (scale, offset) := u.conversion d
  (x - offset) / scale

def name : UnitSystem → String
  | .metric => "metric"
  | .field => "field"

end UnitSystem

end Aquifer
