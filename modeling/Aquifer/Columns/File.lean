import Aquifer.Columns.Layout

namespace Aquifer

namespace Columns

def metadataAt : Location := ["metadata"]

def numericalAt : Location := ["numerical"]

def numbersAt : Location := numericalAt ++ ["aquifer_ids"]

def rowsName : String := "n_rows"

def versionName : String := "format_version"

def formatVersion : Int := 1

def describe (values : List (String × Raw)) : Fill Unit := do
  if ((← get).get? metadataAt).isNone then Fill.group metadataAt
  for (name, x) in values do
    match x with
    | .missing | .list _ => pure ()
    | x => Fill.annotate metadataAt name (← Fill.ofExcept (Attribute.ofRaw x))

def createdName : String := "created"

def description : List (String × Raw) :=
  [(versionName, .int formatVersion), ("pyaquifer_version", .text "0.1.0"),
    (createdName, .text "")]

def fillTable {α : Type} (setting : Option String) (p : Location) (t : Table α) (xs : List α) :
    Fill Unit := do
  let columns ← Fill.ofExcept (t.columns xs)
  Fill.group p
  for (name, c) in columns do Fill.column setting (p ++ [name]) c
  Fill.annotate p rowsName (.int xs.length)

def fillNumerical (setting : Option String) (r : Registry) : Fill Unit := do
  Fill.group numericalAt
  let numbers ← Fill.ofExcept (Column.ofInts (r.toList.map (·.id)))
  Fill.column none numbersAt numbers
  fillTable setting (numericalAt ++ ["cells"]) .storageCell r.cells
  fillTable setting (numericalAt ++ ["connections"]) .coupling r.couplings

def fill (setting : Option String) (c : Configuration) : Fill Unit := do
  describe description
  fillTable setting ["fetkovich"] .fetkovich c.fetkovich.toList
  fillTable setting ["carter_tracy"] .carterTracy c.carterTracy.toList
  fillTable setting ["constant_flux"] .constantFlux c.constantFlux.toList
  fillNumerical setting c.numerical
  fillTable setting ["aquancon"] .influxCell c.influx.toList

def require (s : Store) (p : Location) : Except Fault Node :=
  match s.get? p with
  | some n => .ok n
  | none => .error (.malformed (.missingSection p.text) none)

/-- The number of rows that a group claims; a negative one counts as none. -/
def rowsOf (n : Node) : Except Fault Nat :=
  match n.attributes.get? rowsName with
  | some a => a.raw.toInt.map Int.toNat
  | none => .ok 0

/-- The columns at a place, with their number of rows. A column there has none beneath it, but its
values are looked up as places of its rows. -/
def sectionAt (s : Store) (p : Location) : Except Fault Section := do
  let n ← require s p
  if let some (c, _) := n.column then c.checkPlaces
  return ⟨← rowsOf n, fun name ↦ s.column (p ++ [name])⟩

def gatherCollection {α : Type} [AnalyticKind α] (t : Table α) (s : Section) :
    Except Fault (Collection α) :=
  s.fold t (fun c a ↦ .ok (c.add a)) ∅

/-- The Carter-Tracy aquifers; the columns of offsets must be there even if there are none. -/
def gatherCarterTracy (s : Section) : Except Fault (Collection CarterTracy) := do
  let _ ← s.column "time_offsets"
  let _ ← s.column "pressure_offsets"
  gatherCollection .carterTracy s

def intoLists {α : Type} (aquifer : α → Int) (m : Keyed Int (List α)) (x : α) :
    Except Fault (Keyed Int (List α)) :=
  if m.contains (aquifer x) then .ok (m.push (aquifer x) x) else .error .noSuchKey

def gatherNumbers (s : Store) : Except Fault (List Int) := do
  if (← require s numericalAt).isColumn then .error .unusablePlace
  let some (c, _) := (← s.get numbersAt).column | .error .wrongNode
  c.toList.mapM Raw.toInt

def gatherNumerical (s : Store) : Except Fault Registry := do
  let numbers ← gatherNumbers s
  let cells ← (← sectionAt s (numericalAt ++ ["cells"])).fold .storageCell
    (intoLists (·.aquifer)) (Keyed.ofList (numbers.map (·, [])))
  let couplings ← (← sectionAt s (numericalAt ++ ["connections"])).fold .coupling
    (intoLists (·.aquifer)) (Keyed.ofList (numbers.map (·, [])))
  return ⟨Keyed.ofList (numbers.map fun id ↦
    (id, ⟨id, (cells.get? id).getD [], (couplings.get? id).getD []⟩))⟩

def gatherInflux (s : Section) : Except Fault Influx :=
  s.fold .influxCell (fun x c ↦ .ok (x.add c)) ∅

def versionOf (s : Store) : Except Fault Int :=
  match (s.attributes metadataAt).get? versionName with
  | some a => a.raw.toInt
  | none => .ok 0

def gather (s : Store) : Except Fault Configuration := do
  let v ← versionOf s
  if v < 1 ∨ formatVersion < v then .error (.malformed (.unsupportedVersion v formatVersion) none)
  return {
    fetkovich := ← gatherCollection .fetkovich (← sectionAt s ["fetkovich"])
    carterTracy := ← gatherCarterTracy (← sectionAt s ["carter_tracy"])
    constantFlux := ← gatherCollection .constantFlux (← sectionAt s ["constant_flux"])
    numerical := ← gatherNumerical s
    influx := ← gatherInflux (← sectionAt s ["aquancon"]) }

end Columns

/-- A configuration as a store, and what of it there is if that fails. -/
def Configuration.store (c : Configuration) (setting : Option String) :
    Except Fault Unit × Store :=
  match Columns.fill setting c ∅ with
  | .ok _ s => (.ok (), s)
  | .error e s => (.error e, s)

def Store.configuration (s : Store) : Except Fault Configuration := Columns.gather s

end Aquifer
