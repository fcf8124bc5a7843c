import Aquifer.Raw
import Aquifer.Text.Blank
import Aquifer.Text.Case

namespace Aquifer

inductive ItemType where
  | int
  | real
  | text
  deriving DecidableEq, Repr

inductive Value where
  | int (n : Int)
  | real (x : Double)
  | text (s : String)
  deriving DecidableEq

namespace Value

def raw : Value → Raw
  | .int n => .int n
  | .real x => .real x
  | .text s => .text s

def type : Value → ItemType
  | .int _ => .int
  | .real _ => .real
  | .text _ => .text

def toInt (v : Value) : Except Fault Int := v.raw.toInt

def toReal (v : Value) : Except Fault Double := v.raw.toReal

def toText (v : Value) : Except Fault String := v.raw.toText

end Value

def ItemType.convert : ItemType → Raw → Except Fault Value
  | .int, x => x.toInt.map .int
  | .real, x => x.toReal.map .real
  | .text, x => x.toText.map .text

theorem convert_raw (v : Value) : v.type.convert v.raw = .ok v := by
  cases v <;> rfl

theorem type_of_convert {t : ItemType} {x : Raw} {v : Value} (h : t.convert x = .ok v) :
    v.type = t := by
  have hread {β : Type} {y : Except Fault β} {f : β → Value} (h : y.map f = .ok v) :
      ∃ b, f b = v := by
    cases y with
    | ok b => exact ⟨b, Except.ok.inj h⟩
    | error e => cases h
  cases t with
  | int => obtain ⟨n, rfl⟩ := hread h; rfl
  | real => obtain ⟨y, rfl⟩ := hread h; rfl
  | text => obtain ⟨s, rfl⟩ := hread h; rfl

def yesWords : List String := ["YES", "Y", "TRUE", "T", "1"]

def noWords : List String := ["NO", "N", "FALSE", "F", "0"]

/-- The answer that a text gives, in any letter case and between blanks. -/
def readFlag (text : String) : Except Fault Bool :=
  let word := Text.upper (Text.trim text)
  if yesWords.contains word then .ok true
  else if noWords.contains word then .ok false
  else .error (.notBoolean text)

end Aquifer
