import Aquifer.Deck.Schema
import Aquifer.Keyed

namespace Aquifer

/-- The values given for a record, by item name; a missing value counts as not given. -/
abbrev Row := Keyed String Raw

structure Item where
  name : String
  value : Option Value
  defaulted : Bool
  dimension : Dimension
  deriving DecidableEq

structure Record where
  keyword : String
  items : List Item
  units : UnitSystem
  deriving DecidableEq

namespace Row

def given? (row : Row) (name : String) : Option Raw :=
  match row.get? name with
  | none | some .missing => none
  | some x => some x

def unknown (row : Row) (s : KeywordSchema) : List String :=
  (row.keys.filter fun n ↦ !s.items.any (·.name == n)).mergeSort

end Row

def ItemSchema.resolve (keyword : String) (row : Row) (s : ItemSchema) : Except Fault Item :=
  match row.given? s.name with
  | some x => (s.type.convert x).map fun v ↦ ⟨s.name, some v, false, s.dimension⟩
  | none =>
    if s.required then .error (.itemRequired keyword s.name)
    else .ok ⟨s.name, s.fallback, true, s.dimension⟩

namespace Record

/-- The record that a row makes of a keyword's schema. Unknown items are reported first, then the
first item in schema order that is left out or does not convert. -/
def ofRow (keyword : String) (row : Row) (u : UnitSystem) : Except Fault Record := do
  let some schema := KeywordSchema.find? keyword | .error (.unsupportedKeyword keyword)
  let unknown := row.unknown schema
  if !unknown.isEmpty then .error (.unknownItems keyword unknown)
  let items ← schema.items.mapM (·.resolve keyword row)
  return ⟨keyword, items, u⟩

def item (r : Record) (name : String) : Except Fault Item :=
  match r.items.find? (·.name == name) with
  | some i => .ok i
  | none => .error (.recordLacksItem r.keyword name)

def defaulted (r : Record) (name : String) : Except Fault Bool :=
  (r.item name).map (·.defaulted)

def hasValue (r : Record) (name : String) : Except Fault Bool :=
  (r.item name).map (·.value.isSome)

def get (r : Record) (name : String) : Except Fault Value := do
  match (← r.item name).value with
  | some v => .ok v
  | none => .error (.itemUnset r.keyword name)

def int (r : Record) (name : String) : Except Fault Int := do (← r.get name).toInt

def real (r : Record) (name : String) : Except Fault Double := do (← r.get name).toReal

def si (r : Record) (name : String) : Except Fault Double := do
  let i ← r.item name
  return r.units.toSI i.dimension (← r.real name)

def givenSI (r : Record) (name : String) : Except Fault (Option Double) := do
  if (← r.defaulted name) || !(← r.hasValue name) then return none
  return some (← r.si name)

def givenOr {α : Type} (r : Record) (name : String) (read : String → Except Fault α)
    (fallback : Except Fault α) : Except Fault α := do
  if ← r.defaulted name then fallback else read name

def trimmed (r : Record) (name : String) : Except Fault String := do
  let s ← (← r.get name).toText
  return Text.trim s

end Record

end Aquifer
