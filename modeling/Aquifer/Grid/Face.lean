import Aquifer.Fault
import Aquifer.Text.Blank
import Aquifer.Text.Case

namespace Aquifer

inductive Axis where
  | x
  | y
  | z
  deriving DecidableEq, Repr

def Axis.number : Axis → Nat
  | .x => 0
  | .y => 1
  | .z => 2

def Axis.letter : Axis → Char
  | .x => 'X'
  | .y => 'Y'
  | .z => 'Z'

structure Face where
  axis : Axis
  upper : Bool
  deriving DecidableEq, Repr

namespace Face

def all : List Face :=
  [⟨.x, false⟩, ⟨.x, true⟩, ⟨.y, false⟩, ⟨.y, true⟩, ⟨.z, false⟩, ⟨.z, true⟩]

def sign (f : Face) : Char := if f.upper then '+' else '-'

def chars (f : Face) : List Char := [f.axis.letter, f.sign]

def text (f : Face) : String := String.ofList f.chars

def code (f : Face) : Int := 2 * f.axis.number + if f.upper then 2 else 1

def ofCode (n : Int) : Except Fault Face :=
  match all.find? (·.code == n) with
  | some f => .ok f
  | none => .error (.badFaceCode n)

def offset (f : Face) : Coord :=
  let step : Int := if f.upper then 1 else -1
  match f.axis with
  | .x => ⟨step, 0, 0⟩
  | .y => ⟨0, step, 0⟩
  | .z => ⟨0, 0, step⟩

def axisLetter : Char → Char
  | 'I' => 'X'
  | 'J' => 'Y'
  | 'K' => 'Z'
  | c => c

/-- The face that a text names, in any letter case and between blanks; cell number letters name
axes too. -/
def ofText (s : String) : Except Fault Face :=
  let name := (Text.upperChars (Text.trimChars s.toList)).map axisLetter
  match all.find? (·.chars == name) with
  | some f => .ok f
  | none => .error (.badFace s)

theorem mem_all (f : Face) : f ∈ all := by
  obtain ⟨_ | _ | _, _ | _⟩ := f <;> decide

theorem ofCode_code (f : Face) : ofCode f.code = .ok f := by
  obtain ⟨_ | _ | _, _ | _⟩ := f <;> rfl

theorem code_of_ofCode {n : Int} {f : Face} (h : ofCode n = .ok f) : f.code = n := by
  unfold ofCode at h
  split at h
  · rename_i g hg
    simp only [Except.ok.injEq] at h
    simpa [h] using List.find?_some hg
  · simp at h

end Face

end Aquifer
