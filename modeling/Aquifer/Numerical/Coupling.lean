import Aquifer.Deck.Basic
import Aquifer.Grid.Box
import Aquifer.Trace

namespace Aquifer

structure Coupling where
  aquifer : Int
  place : Coord
  index : Int
  face : Face
  multiplier : Double := 1.0
  option : Int := 0
  internal : Bool := false
  relpermFraction : Double := 1.0
  capillaryFraction : Double := 1.0
  deriving DecidableEq, BEq

namespace Coupling

def text (c : Coupling) : Option String := do
  let id ← Number.intText? c.aquifer
  let place ← c.place.text
  return s!"NumericalAquiferConnection(aquifer={id}, ijk={place}, face={c.face.text})"

def ofRecord (g : Grid) (override : Option ActiveMap) (r : Record) :
    Except Fault (List Coupling) := do
  let m := g.mapOr override
  let aquifer ← r.int "ID"
  let box ← Box.ofRecord r
  let internal ← readFlag (← r.trimmed "ALLOW_INTERNAL_CELLS")
  let face ← Face.ofText (← r.trimmed "CONNECT_FACE")
  let multiplier ← r.real "TRANS_MULT"
  let option ← r.int "TRANS_OPTION"
  let relperm ← r.real "VEFRAC"
  let capillary ← r.real "VEFRACP"
  let cells ← (box.cells g.dims).filterM (g.connectable m internal face)
  return cells.map fun c ↦
    ⟨aquifer, c, g.dims.linear c, face, multiplier, option, internal, relperm, capillary⟩

/-- The couplings of a record, with a note of their number. -/
def expand (g : Grid) (override : Option ActiveMap) (r : Record) : Traced (List Coupling) := do
  let cs ← ofRecord g override r
  Traced.note (.expanded (← r.int "ID") cs.length)
  return cs

end Coupling

@[ext] structure Couplings where
  byAquifer : Keyed Int (Keyed Int Coupling)

namespace Couplings

def empty : Couplings := ⟨∅⟩

instance : EmptyCollection Couplings := ⟨empty⟩

def ofAquifer (cs : Couplings) (id : Int) : Keyed Int Coupling := (cs.byAquifer.get? id).getD ∅

def add (cs : Couplings) (c : Coupling) : Except Issue Couplings :=
  let known := cs.ofAquifer c.aquifer
  if known.contains c.index then .error ⟨c.aquifer, some c.place.oneBased, .coupledTwice⟩
  else .ok ⟨cs.byAquifer.insert c.aquifer (known.insert c.index c)⟩

def addAll (cs : Couplings) (xs : List Coupling) : Except Fault Couplings :=
  xs.foldlM (fun cs c ↦ (cs.add c).mapError .issue) cs

def addEach (cs : Couplings) : List Coupling → Couplings × List (Option Issue)
  | [] => (cs, [])
  | c :: rest =>
    let (cs, issue) := match cs.add c with
      | .ok cs => (cs, none)
      | .error i => (cs, some i)
    let (cs, issues) := cs.addEach rest
    (cs, issue :: issues)

def ofDeck (d : Deck) (g : Grid) (override : Option ActiveMap) : Traced Couplings :=
  (d.records "AQUCON").foldlM (fun cs r ↦ do
    cs.addAll (← Coupling.expand g override r)) ∅

def has (cs : Couplings) (id : Int) : Bool := cs.byAquifer.contains id

def get (cs : Couplings) (id : Int) : Except Issue (Keyed Int Coupling) :=
  match cs.byAquifer.get? id with
  | some m => .ok m
  | none => .error ⟨id, none, .nothingDeclared "connections"⟩

def size (cs : Couplings) : Nat := (cs.byAquifer.values.flatMap Keyed.entries).length

end Couplings

end Aquifer
