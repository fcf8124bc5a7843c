import Aquifer.Analytic.CarterTracy
import Aquifer.Analytic.ConstantFlux
import Aquifer.Analytic.Fetkovich
import Aquifer.Component
import Aquifer.Deck.Basic

namespace Aquifer

class AnalyticKind (α : Type) where
  id : α → Int
  problems : α → Except Fault (List String)
  collection : String

instance : AnalyticKind Fetkovich := ⟨Fetkovich.id, Fetkovich.problems, "Aquifetp"⟩

instance : AnalyticKind CarterTracy := ⟨CarterTracy.id, CarterTracy.problems, "AquiferCT"⟩

instance : AnalyticKind ConstantFlux := ⟨ConstantFlux.id, fun _ ↦ .ok [], "AquiferConstantFlux"⟩

/-- Analytic aquifers of one kind, by number, in the order in which the numbers came. -/
@[ext] structure Collection (α : Type) where
  aquifers : Keyed Int α
  deriving BEq

namespace Collection

variable {α : Type}

def empty : Collection α := ⟨∅⟩

instance : EmptyCollection (Collection α) := ⟨empty⟩

def size (c : Collection α) : Nat := c.aquifers.size

def toList (c : Collection α) : List α := c.aquifers.values

def has (c : Collection α) (id : Int) : Bool := c.aquifers.contains id

def get (c : Collection α) (id : Int) : Except Fault α :=
  match c.aquifers.get? id with
  | some a => .ok a
  | none => .error .noSuchKey

variable [AnalyticKind α]

def add (c : Collection α) (a : α) : Collection α := ⟨c.aquifers.insert (AnalyticKind.id a) a⟩

def ofList (as : List α) : Collection α := as.foldl add ∅

def ofRecords (build : Record → Except Fault α) (rs : List Record) : Except Fault (Collection α) :=
  rs.foldlM (fun c r ↦ do return c.add (← build r)) ∅

def text (c : Collection α) : String := AnalyticKind.collection α ++ s!"(n_aquifers={c.size})"

instance : Component (Collection α) where
  title := "analytic aquifer"
  problems c := List.flatten <$> c.toList.mapM AnalyticKind.problems
  count := size

end Collection

def Deck.fetkovich (d : Deck) : Except Fault (Collection Fetkovich) :=
  Collection.ofRecords Fetkovich.ofRecord (d.records "AQUFETP")

def Deck.carterTracy (d : Deck) (tables : Option InfluenceTables) :
    Except Fault (Collection CarterTracy) :=
  Collection.ofRecords (CarterTracy.ofRecord tables) (d.records "AQUCT")

def Deck.constantFlux (d : Deck) : Except Fault (Collection ConstantFlux) :=
  Collection.ofRecords ConstantFlux.ofRecord (d.records "AQUFLUX")

namespace Collection

def schedule (c : Collection ConstantFlux) (r : Record) : Except Fault (Collection ConstantFlux) :=
  (ConstantFlux.ofRecord r).map c.add

inductive FluxCall where
  | add (a : ConstantFlux)
  | schedule (r : Record)

def FluxCall.step : FluxCall → Attempt (Collection ConstantFlux) Unit
  | .add a => modify (·.add a)
  | .schedule r => do Attempt.assign ((← EStateM.get).schedule r)

def FluxCall.after (c : Collection ConstantFlux) (call : FluxCall) : Collection ConstantFlux :=
  call.step.leaves c

end Collection

end Aquifer
