import Aquifer.Deck.Record

namespace Aquifer

structure Occurrence where
  keyword : String
  records : List Record
  deriving DecidableEq

structure Deck where
  occurrences : List Occurrence := []
  units : UnitSystem := .metric
  deriving DecidableEq

namespace Deck

structure Addition where
  keyword : String
  rows : List Row

/-- Makes a record of every row, and then adds the occurrence at the end of the deck. -/
def Addition.step (x : Addition) : Attempt Deck Unit := do
  let d ← get
  match x.rows.mapM (Record.ofRow x.keyword · d.units) with
  | .ok records =>
    let occurrence : Occurrence := ⟨x.keyword, records⟩
    set { d with occurrences := d.occurrences ++ [occurrence] }
  | .error e => throw e

def add (d : Deck) (keyword : String) (rows : List Row) : Except Fault Deck :=
  match Addition.step ⟨keyword, rows⟩ d with
  | .ok _ e => .ok e
  | .error f _ => .error f

def after (u : UnitSystem) (xs : List Addition) : Deck :=
  xs.foldl (fun d x ↦ x.step.leaves d) { units := u }

def occurrencesOf (d : Deck) (keyword : String) : List Occurrence :=
  d.occurrences.filter (·.keyword == keyword)

def has (d : Deck) (keyword : String) : Bool := d.occurrences.any (·.keyword == keyword)

def records (d : Deck) (keyword : String) : List Record :=
  (d.occurrencesOf keyword).flatMap (·.records)

end Deck

end Aquifer
