import Aquifer.Fault

namespace Aquifer

class Component (α : Type) where
  title : String
  problems : α → Except Fault (List String)
  count : α → Nat

namespace Component

def isEmpty {α : Type} [Component α] (x : α) : Bool := count x == 0

def validate {α : Type} [Component α] (x : α) : Except Fault Unit := do
  let ps ← problems x
  if ps.isEmpty then .ok () else .error (.invalid (title α) ps)

def problem (kind : String) (id : Int) (bad : Bool) (what : String) :
    Except Fault (List String) := do
  if !bad then return []
  let id ← Text.written (Number.intText? id)
  return [s!"{kind} aquifer {id}: {what}"]

end Component

end Aquifer
