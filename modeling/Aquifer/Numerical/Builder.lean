import Aquifer.Numerical.Registry

namespace Aquifer

/-- Cells and couplings by aquifer, and the owner of each grid cell. -/
@[ext] structure Builder where
  cells : Keyed Int (List StorageCell)
  couplings : Keyed Int (List Coupling)
  owner : Keyed Int StorageCell

namespace Builder

def empty : Builder := ⟨∅, ∅, ∅⟩

instance : EmptyCollection Builder := ⟨empty⟩

def addCell (b : Builder) (c : StorageCell) : Except Issue Builder :=
  match b.owner.get? c.index with
  | some o => .error ⟨c.aquifer, some c.place.oneBased, .cellTaken o.aquifer⟩
  | none => .ok {
      cells := b.cells.push c.aquifer c
      couplings := if b.couplings.contains c.aquifer then b.couplings
        else b.couplings.insert c.aquifer []
      owner := b.owner.insert c.index c }

def owns (b : Builder) (c : Coupling) : Bool :=
  (b.owner.get? c.index).any (·.aquifer == c.aquifer)

/-- The builder with one more coupling, unless it ends at one of its own aquifer's cells, and
whether it was attached. -/
def attach (b : Builder) (c : Coupling) : Traced (Builder × Bool) := do
  if b.owns c then
    Traced.note (.ownCell c.place.oneBased c.aquifer)
    return (b, false)
  else return ({ b with couplings := b.couplings.push c.aquifer c }, true)

def attachList (b : Builder) (cs : List Coupling) : Traced Builder :=
  cs.foldlM (fun b c ↦ do return (← b.attach c).1) b

def attachAquifers (cs : Couplings) : List Int → Builder → Traced (Builder × Option Issue)
  | [], b => return (b, none)
  | id :: ids, b =>
    match cs.get id with
    | .error i => return (b, some i)
    | .ok m => do attachAquifers cs ids (← b.attachList m.values)

def attachAll (b : Builder) (cs : Couplings) : Traced (Builder × Option Issue) :=
  attachAquifers cs b.cells.keys b

def registry (b : Builder) : Registry :=
  ⟨b.cells.mapValues fun id cells ↦ ⟨id, cells, (b.couplings.get? id).getD []⟩⟩

/-- The aquifers that have cells, and a builder to start over with. -/
def finalize (b : Builder) : Registry × Builder := (b.registry, ∅)

inductive Call where
  | addCell (c : StorageCell)
  | attach (y : Coupling)
  | attachAll (cs : Couplings)
  | finalize

/-- What a call answers: the issue that it met, if any, whether the coupling was attached, or the
aquifers. -/
inductive Answer where
  | done (problem : Option Issue)
  | attached (accepted : Bool)
  | aquifers (r : Registry)

def lookUp (b : Builder) (e : Int × List StorageCell) : Except Fault (Int × NumericalAquifer) :=
  match b.couplings.get? e.1 with
  | some ys => .ok (e.1, ⟨e.1, e.2, ys⟩)
  | none => .error .noSuchKey

def handOver (b : Builder) : Except Fault Registry := do
  return ⟨Keyed.ofList (← b.cells.entries.mapM b.lookUp)⟩

/-- The builder after a call, and the answer. A cell that is refused changes nothing. -/
def Call.step (b : Builder) : Call → Except Fault (Builder × Answer)
  | .addCell c =>
    match b.addCell c with
    | .ok d => .ok (d, .done none)
    | .error i => .ok (b, .done (some i))
  | .attach y => (b.attach y).result.map fun (d, accepted) ↦ (d, .attached accepted)
  | .attachAll cs => (b.attachAll cs).result.map fun (d, problem) ↦ (d, .done problem)
  | .finalize => b.handOver.map fun r ↦ (b.finalize.2, .aquifers r)

def run (calls : List Call) : Except Fault Builder :=
  calls.foldlM (fun b call ↦ (call.step b).map Prod.fst) ∅

def check (g : Grid) (r : Record) : Except Fault Unit := do
  let i ← r.int "I"
  let j ← r.int "J"
  let k ← r.int "K"
  let place := Coord.mk i j k
  let aquifer ← r.int "AQUIFER_ID"
  let unusable (reason : String) : Except Fault Unit :=
    .error (.issue ⟨aquifer, some place, .unusableCell reason⟩)
  if !g.dims.contains place.zeroBased then
    unusable s!"is outside grid of size {shapeText g.dims.shape}"
  else if !(← g.cellActive place.zeroBased) then unusable "is not active"
  else return

def addRecord (g : Grid) (p : Properties) (b : Builder) (r : Record) : Except Fault Builder := do
  check g r
  (b.addCell (← StorageCell.ofRecord g p r)).mapError .issue

def ofRecords (g : Grid) (p : Properties) (rs : List Record) : Except Fault Builder :=
  rs.foldlM (addRecord g p) ∅

end Builder

def Registry.ofDeck (d : Deck) (g : Grid) (p : Properties) (override : Option ActiveMap) :
    Traced Registry := do
  if !d.has "AQUNUM" then return ∅
  let b ← Builder.ofRecords g p (d.records "AQUNUM")
  let (b, problem) ← b.attachAll (← Couplings.ofDeck d g override)
  if let some i := problem then Traced.ofExcept (.error (.issue i))
  let r := b.registry
  Traced.note (.built r.size r.cells.length r.couplings.length)
  return r

end Aquifer
