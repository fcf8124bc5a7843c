import Aquifer.Columns.Column
import Aquifer.Columns.Location
import Aquifer.Grid.Array
import Aquifer.Keyed

namespace Aquifer

inductive Attribute where
  | int (n : Int)
  | real (x : Double)
  | flag (b : Bool)
  | text (s : String)
  | array (xs : List Raw)

namespace Attribute

def raw : Attribute → Raw
  | .int n => .int n
  | .real x => .real x
  | .flag b => .flag b
  | .text s => .text s
  | .array xs => .list xs

def ofRaw : Raw → Except Fault Attribute
  | .int n => .ok (.int n)
  | .real x => .ok (.real x)
  | .flag b => .ok (.flag b)
  | .text s => .ok (.text s)
  | .list xs => .ok (.array xs)
  | .missing => .error .notStorable

/-- Reports an entry that cannot be stored: integers are words of eight bytes with or without
sign, and texts hold no null character. -/
def checkEntry : Raw → Except Fault Unit
  | .int n => if Binary.fits 8 n || Binary.fitsUnsigned 8 n then .ok () else .error .notStorable
  | .text s => if Text.hasNull s then .error .nullInText else .ok ()
  | .real _ | .flag _ => .ok ()
  | .missing | .list _ => .error .notStorable

def isText : Raw → Bool
  | .text _ => true
  | _ => false

def maxAxes : Nat := 32

def check : Attribute → Except Fault Unit
  | .array xs => do
    let (shape, entries) ← (Raw.list xs).array .ok
    if entries.any isText && !entries.all isText then .error .notStorable
    entries.forM checkEntry
    if maxAxes < shape.length then .error .noArray
  | a => checkEntry a.raw

end Attribute

/-- What stands at a place of a store: a column with its compression, or else a group. -/
structure Node where
  attributes : Keyed String Attribute := ∅
  column : Option (Column × Option Compression) := none

namespace Node

def isColumn (n : Node) : Bool := n.column.isSome

/-- The node with an attribute; without a name it is not even looked for. -/
def annotate (n : Node) (name : String) (a : Attribute) : Except Fault Node := do
  a.check
  let name := Text.untilNull name
  if name = "" then .error .namelessSearch
  return { n with attributes := n.attributes.insert name a }

def removeAttribute (n : Node) (name : String) : Except Fault Node :=
  let name := Text.untilNull name
  if name = "" then .error .nameless
  else if n.attributes.contains name then .ok { n with attributes := n.attributes.erase name }
  else .error .noSuchKey

end Node

structure Store where
  nodes : Keyed Location Node

namespace Store

def empty : Store := ⟨Keyed.empty.insert [] {}⟩

instance : EmptyCollection Store := ⟨empty⟩

def get? (s : Store) (p : Location) : Option Node := s.nodes.get? p

def get (s : Store) (p : Location) : Except Fault Node :=
  match s.get? p with
  | some n => .ok n
  | none => .error .noSuchKey

def isColumn (s : Store) (p : Location) : Bool := (s.get? p).any (·.isColumn)

def column (s : Store) (p : Location) : Except Fault Column :=
  match (s.get? p).bind (·.column) with
  | some (c, _) => .ok c
  | none => .error .noSuchKey

def attributes (s : Store) (p : Location) : Keyed String Attribute :=
  ((s.get? p).map (·.attributes)).getD ∅

def set (s : Store) (p : Location) (n : Node) : Store := ⟨s.nodes.insert p n⟩

def remove (s : Store) (p : Location) : Store where
  nodes := {
    entries := s.nodes.entries.filter fun e ↦ !Location.beneath p e.1
    nodup := s.nodes.nodup.sublist (List.filter_sublist.map Prod.fst) }

def listing (s : Store) : List (String × Node) :=
  ((s.nodes.entries.filter fun e ↦ !e.1.isEmpty).map fun e ↦ (Location.text e.1, e.2)).mergeSort
    fun a b ↦ a.1 ≤ b.1

def opened : Option Store → Except Fault Store
  | some s => .ok s
  | none => .error .storeClosed

theorem get?_set (s : Store) (p q : Location) (n : Node) :
    (s.set p n).get? q = if q = p then some n else s.get? q :=
  Keyed.get?_insert s.nodes p q n

end Store

abbrev Fill := EStateM Fault Store

namespace Fill

def ofExcept {α : Type} : Except Fault α → Fill α
  | .ok a => return a
  | .error e => throw e

def group (p : Location) : Fill Unit := modify (·.set p {})

def column (setting : Option String) (p : Location) (c : Column) : Fill Unit := do
  let compression ← ofExcept (Compression.choose setting c.size)
  modify (·.set p { column := some (c, compression) })

def annotate (p : Location) (name : String) (a : Attribute) : Fill Unit := do
  let n ← ofExcept ((← get).get p)
  let n ← ofExcept (n.annotate name a)
  modify (·.set p n)

end Fill

end Aquifer
