import Aquifer.Fault

namespace Aquifer

inductive Event where
  | expanded (aquifer : Int) (count : Nat)
  /-- A coupling to one of the aquifer's own cells was dropped. -/
  | ownCell (cell : Coord) (aquifer : Int)
  | claimedAgain (cell : Coord) (aquifer : Int)
  | built (aquifers cells couplings : Nat)
  | configured (fetkovich carterTracy constantFlux numerical : Nat)
  | writing (format path : String)
  | wrote (path : String)
  | read (path : String)
  deriving DecidableEq, Repr

inductive Level where
  | debug
  | info
  | warning
  deriving DecidableEq, Repr

def Event.level : Event → Level
  | .expanded .. | .writing .. => .debug
  | .ownCell .. | .claimedAgain .. => .warning
  | .built .. | .configured .. | .wrote .. | .read .. => .info

/-- The text of an event; an event about an integer that cannot be written is not shown. -/
def Event.text : Event → Option String
  | .expanded a n => do
    let a ← Number.intText? a
    return s!"AQUCON record for aquifer {a} generated {n} connection(s)"
  | .ownCell c a => do
    let c ← c.text
    let a ← Number.intText? a
    return s!"Cell {c} is a cell of numerical aquifer {a}; connection to it is ignored"
  | .claimedAgain c a => do
    let c ← c.text
    let a ← Number.intText? a
    return s!"Cell {c} is connected to analytic aquifer {a} more than once; " ++
      "the last connection is used"
  | .built a c n =>
    some s!"Built {a} numerical aquifer(s) with {c} cell(s) and {n} connection(s)"
  | .configured f c q n =>
    some <| s!"Aquifer configuration: {f} Fetkovich, {c} Carter-Tracy, {q} constant flux, " ++
      s!"{n} numerical"
  | .writing format path => some s!"Writing {format} restart file {path}"
  | .wrote path => some s!"Wrote aquifer configuration to {path}"
  | .read path => some s!"Read aquifer configuration from {path}"

def Level.name : Level → String
  | .debug => "DEBUG"
  | .info => "INFO"
  | .warning => "WARNING"

def Event.line (e : Event) : Option String := e.text.map fun s ↦ s!"{e.level.name} {s}"

/-- A result together with the events noted before it was reached. -/
structure Traced (α : Type) where
  events : List Event
  result : Except Fault α

namespace Traced

variable {α β : Type}

def note (e : Event) : Traced Unit := ⟨[e], .ok ()⟩

def ofExcept (r : Except Fault α) : Traced α := ⟨[], r⟩

def reported (x : Traced α) : Traced α := ⟨x.events, x.result.mapError Fault.reported⟩

def bind (x : Traced α) (f : α → Traced β) : Traced β :=
  match x.result with
  | .ok a =>
    let y := f a
    ⟨x.events ++ y.events, y.result⟩
  | .error e => ⟨x.events, .error e⟩

instance : Monad Traced where
  pure a := ofExcept (.ok a)
  bind := bind

instance : MonadLift (Except Fault) Traced := ⟨ofExcept⟩

@[simp] theorem result_pure (a : α) : (pure a : Traced α).result = .ok a := rfl

@[simp] theorem events_pure (a : α) : (pure a : Traced α).events = [] := rfl

@[simp] theorem result_note (e : Event) : (note e).result = .ok () := rfl

@[simp] theorem result_ofExcept (r : Except Fault α) : (ofExcept r).result = r := rfl

@[simp] theorem result_reported (x : Traced α) :
    x.reported.result = x.result.mapError Fault.reported := rfl

@[simp] theorem liftM_eq_ofExcept (r : Except Fault α) : (liftM r : Traced α) = ofExcept r := rfl

@[simp] theorem result_bind (x : Traced α) (f : α → Traced β) :
    (x >>= f).result = x.result >>= fun a ↦ (f a).result := by
  obtain ⟨_, _ | _⟩ := x <;> rfl

end Traced

end Aquifer
