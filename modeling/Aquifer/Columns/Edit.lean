import Aquifer.Columns.Store

namespace Aquifer

inductive ColumnType where
  | int
  | real
  | flag
  deriving DecidableEq, Repr

def ColumnType.column : ColumnType → List Raw → Except Fault Column
  | .int, xs => do Column.ofInts (← xs.mapM Raw.toInt)
  | .real, xs => .reals <$> xs.mapM Raw.toRealEntry
  | .flag, xs => .flags <$> xs.mapM Raw.toFlag

inductive Edit where
  | remove (place : String)
  | column (place : String) (type : ColumnType) (values : List Raw)
  | annotate (place : String) (name : String) (value : Raw)
  | removeAttribute (place : String) (name : String)

namespace Edit

def find (s : Store) (place : String) : Except Fault (Location × Node) :=
  match Location.ofText? place with
  | some p => do return (p, ← s.get p)
  | none => .error .noSuchKey

def removeEntry (s : Store) (place : String) : Except Fault Store :=
  match Location.ofEntry? place with
  | some p => do
    let _ ← s.get p
    return s.remove p
  | none => .error .noSuchKey

def namesOf (place : String) : List String := (Location.names place).map Text.untilNull

def occupied (s : Store) (place : String) : Bool :=
  let ns := namesOf place
  let p := Location.along ns
  place != "" && (s.get? p).isSome && !(ns.getLast? == some "." && s.isColumn p)

def ensureGroup (s : Store) (p : Location) : Store :=
  if (s.get? p).isSome then s else s.set p {}

/-- The store with a group at the place to which names lead and groups on the way. A column cannot
serve as a group, and no group can be made at or beneath one. -/
def openGroup (s : Store) (names : List String) : Except Fault Store :=
  let p := Location.along names
  if s.isColumn p then .error .wrongNode
  else if (s.get? p).isSome then .ok s
  else if (Location.ancestors p).any s.isColumn ∨ names.getLast? = some "." then
    .error .unusablePlace
  else .ok ((Location.ancestors p ++ [p]).foldl ensureGroup s)

/-- The names of the group that a text leads to, and the name of the entry in it; a text that ends
in a slash names no entry. -/
def splitEntry (place : String) : List String × String :=
  let ns := namesOf place
  if place.endsWith "/" then (ns, "") else (ns.dropLast, ns.getLastD "")

def putColumn (s : Store) (place : String) (type : ColumnType) (xs : List Raw) :
    Except Fault Store := do
  let s ← if occupied s place then removeEntry s place else pure s
  let c ← type.column xs
  if place = "" then .error .notStorable
  let (group, name) := splitEntry place
  let s ← openGroup s group
  if name = "" ∨ name = "." then .error .unusablePlace
  return s.set (Location.along group ++ [name]) { column := some (c, none) }

def apply (s : Store) : Edit → Except Fault Store
  | remove place => removeEntry s place
  | column place type xs => putColumn s place type xs
  | annotate place name x => do
    let (p, n) ← find s place
    return s.set p (← n.annotate name (← Attribute.ofRaw x))
  | removeAttribute place name => do
    let (p, n) ← find s place
    return s.set p (← n.removeAttribute name)

def applyAll (s : Store) (es : List Edit) : Except Fault Store := es.foldlM apply s

end Edit

end Aquifer
