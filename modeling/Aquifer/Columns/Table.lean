import Aquifer.Columns.Store

namespace Aquifer

structure Section where
  rows : Nat
  column : String → Except Fault Column

namespace Section

def entry (s : Section) (name : String) (n : Nat) : Except Fault Raw := do
  (← s.column name).row n

def reals (s : Section) (name : String) (first last : Int) : Except Fault (List Double) := do
  ((← s.column name).slice first last).mapM Raw.toReal

end Section

/-- How values are spread over columns and gathered again. -/
structure Table (α : Type) where
  columns : List α → Except Fault (List (String × Column))
  row : Section → Nat → Except Fault α

namespace Table

variable {α β : Type}

def int (name : String) : Table Int where
  columns xs := do return [(name, ← Column.ofInts xs)]
  row s n := do (← s.entry name n).toInt

def real (name : String) : Table Double where
  columns xs := .ok [(name, .reals xs)]
  row s n := do (← s.entry name n).toReal

def flag (name : String) : Table Bool where
  columns xs := .ok [(name, .flags xs)]
  row s n := do (← s.entry name n).toFlag

def maskOf (name : String) : String := name ++ "_set"

/-- Optional doubles in a column of values, zero where there is none, and a column of truth
values. -/
def optional (name : String) : Table (Option Double) where
  columns xs :=
    .ok [(name, .reals (xs.map (·.getD 0.0))), (maskOf name, .flags (xs.map (·.isSome)))]
  row s n := do
    if ← (← s.entry (maskOf name) n).toFlag then return some (← (← s.entry name n).toReal)
    else return none

def pair (a : Table α) (b : Table β) : Table (α × β) where
  columns xs := do return (← a.columns (xs.map (·.1))) ++ (← b.columns (xs.map (·.2)))
  row s n := do return (← a.row s n, ← b.row s n)

def map (a : Table α) (form : α → β) (unform : β → α) : Table β where
  columns xs := a.columns (xs.map unform)
  row s n := do return form (← a.row s n)

def refine (a : Table α) (form : α → Except Fault β) (unform : β → α) : Table β where
  columns xs := a.columns (xs.map unform)
  row s n := do form (← a.row s n)

end Table

namespace Section

def foldRows {α β : Type} (row : Nat → Except Fault α) (step : β → α → Except Fault β) :
    Nat → Nat → β → Except Fault β
  | _, 0, b => .ok b
  | n, left + 1, b => do foldRows row step (n + 1) left (← step b (← row n))

def fold {α β : Type} (s : Section) (t : Table α) (step : β → α → Except Fault β) (b : β) :
    Except Fault β :=
  foldRows (t.row s) step 0 s.rows b

end Section

end Aquifer
