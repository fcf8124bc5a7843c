import Aquifer.Deck.Value
import Aquifer.Units

namespace Aquifer

structure ItemSchema where
  name : String
  type : ItemType
  fallback : Option Value := none
  dimension : Dimension := .one
  required : Bool := false

structure KeywordSchema where
  name : String
  items : List ItemSchema

namespace KeywordSchema

def item (s : KeywordSchema) (name : String) : Except Fault ItemSchema :=
  match s.items.find? (·.name == name) with
  | some i => .ok i
  | none => .error (.noSuchItem s.name name)

def numbers (names : List String) : List ItemSchema :=
  names.map fun n ↦ { name := n, type := .int, required := true }

def given (name : String) (d : Dimension) : ItemSchema :=
  { name := name, type := .real, dimension := d, required := true }

def optional (name : String) (d : Dimension := .one) : ItemSchema :=
  { name := name, type := .real, dimension := d }

def real (name : String) (x : Double) (d : Dimension := .one) : ItemSchema :=
  { name := name, type := .real, fallback := some (.real x), dimension := d }

def int (name : String) (n : Int) : ItemSchema :=
  { name := name, type := .int, fallback := some (.int n) }

def word (name : String) : ItemSchema := { name := name, type := .text, required := true }

def text (name s : String) : ItemSchema :=
  { name := name, type := .text, fallback := some (.text s) }

def aqunum : KeywordSchema where
  name := "AQUNUM"
  items := numbers ["AQUIFER_ID", "I", "J", "K"] ++
    [given "CROSS_SECTION" .area, given "LENGTH" .length, optional "PORO",
      given "PERM" .permeability, optional "DEPTH" .length,
      optional "INITIAL_PRESSURE" .pressure, { name := "PVT_TABLE_NUM", type := .int },
      { name := "SAT_TABLE_NUM", type := .int }]

def aqucon : KeywordSchema where
  name := "AQUCON"
  items := numbers ["ID", "I1", "I2", "J1", "J2", "K1", "K2"] ++
    [word "CONNECT_FACE", real "TRANS_MULT" 1.0, int "TRANS_OPTION" 0,
      text "ALLOW_INTERNAL_CELLS" "NO", real "VEFRAC" 1.0, real "VEFRACP" 1.0]

def aqufetp : KeywordSchema where
  name := "AQUFETP"
  items := numbers ["AQUIFER_ID"] ++
    [given "DAT_DEPTH" .length, optional "P0" .pressure, given "V0" .volume,
      given "C_T" .compressibility, given "PI" .productivity, int "TABLE_NUM_WATER_PRESS" 1,
      real "SALINITY" 0.0 .salinity, optional "TEMP" .temperature]

def aquct : KeywordSchema where
  name := "AQUCT"
  items := numbers ["AQUIFER_ID"] ++
    [given "DAT_DEPTH" .length, optional "P_INI" .pressure, given "PERM_AQ" .permeability,
      real "PORO_AQ" 1.0, given "C_T" .compressibility, given "RAD" .length,
      given "THICKNESS_AQ" .length, real "INFLUENCE_ANGLE" 360.0,
      int "TABLE_NUM_WATER_PRESS" 1, int "TABLE_NUM_INFLUENCE_FN" 1]

def aquflux : KeywordSchema where
  name := "AQUFLUX"
  items := numbers ["AQUIFER_ID"] ++
    [given "FLUX" .fluxPerArea, real "SC_0" 0.0 .salinity, optional "TEMP" .temperature,
      optional "PRESSURE" .pressure]

def aquancon : KeywordSchema where
  name := "AQUANCON"
  items := numbers ["AQUIFER_ID", "I1", "I2", "J1", "J2", "K1", "K2"] ++
    [word "FACE", optional "INFLUX_COEFF" .area, real "INFLUX_MULT" 1.0,
      text "CONNECT_ADJOINING_ACTIVE_CELL" "NO"]

def all : List KeywordSchema := [aqunum, aqucon, aqufetp, aquct, aquflux, aquancon]

def find? (keyword : String) : Option KeywordSchema := all.find? (·.name == keyword)

end KeywordSchema

end Aquifer
