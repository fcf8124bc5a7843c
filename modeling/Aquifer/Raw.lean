import Aquifer.Fault
import Aquifer.Number.Text
import Aquifer.Number.Literal
import Aquifer.Number.Whole

namespace Aquifer

inductive Raw where
  | missing
  | flag (b : Bool)
  | int (n : Int)
  | real (x : Double)
  | text (s : String)
  | list (xs : List Raw)

namespace Raw

def toInt : Raw → Except Fault Int
  | .flag b => .ok (if b then 1 else 0)
  | .int n => .ok n
  | .real x =>
    match Number.truncate? x with
    | some n => .ok n
    | none => .error (if x.isNaN then .notANumber else .tooLarge)
  | .text s =>
    match Number.readInt? s with
    | some n => .ok n
    | none => .error .notANumber
  | .missing | .list _ => .error .notNumeric

def toReal : Raw → Except Fault Double
  | .flag b => .ok (if b then 1.0 else 0.0)
  | .int n =>
    match Number.ofInt? n with
    | some x => .ok x
    | none => .error .tooLarge
  | .real x => .ok x
  | .text s =>
    match Number.readReal? s with
    | some x => .ok x
    | none => .error .notANumber
  | .missing | .list _ => .error .notNumeric

def toRealEntry : Raw → Except Fault Double
  | .missing => .ok .nan
  | x => x.toReal

/-- The truth value of a raw value: every number but zero and every text but the empty one count as
true. -/
def toFlag : Raw → Except Fault Bool
  | .flag b => .ok b
  | .int n => .ok (n != 0)
  | .real x => .ok (x != 0.0)
  | .text s => .ok (s != "")
  | .missing => .ok false
  | .list xs => .ok !xs.isEmpty

mutual

/-- A value as it stands in a list, if every integer in it can be written. -/
def shown : Raw → Option String
  | .missing => some "None"
  | .flag b => some (if b then "True" else "False")
  | .int n => Number.intText? n
  | .real x => some (Number.realText x)
  | .text s => some (Text.quoted s)
  | .list xs => (shownList xs).map Text.bracketed

def shownList : List Raw → Option (List String)
  | [] => some []
  | x :: xs => do
    let s ← shown x
    let ss ← shownList xs
    return s :: ss

end

def toText : Raw → Except Fault String
  | .text s => .ok s
  | x => Text.written x.shown

end Raw

end Aquifer
