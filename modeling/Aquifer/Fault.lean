import Aquifer.Issue
import Aquifer.Text.Quoted

namespace Aquifer

inductive Malformation where
  | negativeLength (length : Int)
  | shortPayload (expected got : Nat)
  | noTrailingMarker
  | markerMismatch (leading trailing : Int)
  | badMagic
  | unsupportedVersion (version supported : Int)
  | wrongKind (expected found : String)
  | truncatedHeader
  | truncatedConfiguration
  | truncatedSolution
  | unevenConnections (aquifer : Int)
  | missingSection (name : String)
  deriving DecidableEq, Repr

def Malformation.message : Malformation → String
  | .negativeLength n => s!"Negative record length {n}"
  | .shortPayload n got => s!"Incomplete record: expected {n} bytes, got {got}"
  | .noTrailingMarker => "Missing trailing record marker"
  | .markerMismatch m n => s!"Record marker mismatch: {m} != {n}"
  | .badMagic => "Not an aquifer file: bad magic"
  | .unsupportedVersion v s => s!"Unsupported format version {v} (supported: {s})"
  | .wrongKind expected found => s!"Expected '{expected}' payload, found '{found}'"
  | .truncatedHeader => "Truncated header"
  | .truncatedConfiguration => "Truncated aquifer configuration"
  | .truncatedSolution => "Truncated aquifer data"
  | .unevenConnections a => s!"Inconsistent connection arrays for aquifer {a}"
  | .missingSection name => s!"No {name} data in file"

inductive Fault where
  | gridDimensions (size : Coord)
  | arrayShape (name : String) (found expected : List Nat)
  /-- Lists of different lengths or of too many axes are no array, and some sizes have none. -/
  | noArray
  | outOfMemory
  | outsideGrid (cell : Coord) (shape : List Nat)
  | noSuchCell (index : Int) (size : Nat)
  | inactiveCell (cell : Coord)
  | propertyShape (name : String) (found : List Nat) (expected : Nat)
  | noRealProperty (name : String)
  | noTableProperty (name : String)
  | unsupportedKeyword (keyword : String)
  | unknownItems (keyword : String) (items : List String)
  | itemRequired (keyword item : String)
  | noSuchItem (keyword item : String)
  | recordLacksItem (keyword item : String)
  | itemUnset (keyword item : String)
  | notBoolean (text : String)
  | unknownDimension (name : String)
  | badFace (text : String)
  | badFaceCode (code : Int)
  | badSolutionCode (code : Int)
  | invalid (component : String) (problems : List String)
  | issue (issue : Issue)
  | divisionByZero
  | tooLarge
  /-- A text or a number spells no number of the type it is turned into, or an integer has too many
  digits to be turned into a text. -/
  | notANumber
  /-- A list is no number. -/
  | notNumeric
  | noSuchKey
  | noSuchPlace
  | endOfStream
  | malformed (cause : Malformation) (record : Option Nat)
  /-- A record does not have the width of its type, or a value does not fit into one. -/
  | recordWidth
  | entryCount
  | notUtf8
  | unknownCompression (name : String)
  | notStorable
  /-- A stored text ends at its first null character, so it cannot hold one. -/
  | nullInText
  | wrongNode
  | unusablePlace
  /-- An attribute without a name cannot be removed. -/
  | nameless
  /-- An attribute without a name cannot be looked for. -/
  | namelessSearch
  | storeClosed
  | restartMissing (path : String)
  | nameTooLong
  | badByteOrder (text : String)
  | unknownRestartFormat (name : String)
  deriving DecidableEq, Repr

def shapeText (shape : List Nat) : String := Text.tupled (shape.map toString)

/-- The message of a fault. Faults that say nothing beyond their kind have none, nor do those about
an integer that has too many digits to be written. -/
def Fault.message : Fault → Option String
  | .gridDimensions s => s.text.map fun s ↦ s!"Invalid grid dimensions {s}"
  | .arrayShape name found expected =>
    some s!"{name} shape {shapeText found} does not match expected {shapeText expected}"
  | .outsideGrid c s => c.text.map fun c ↦ s!"Cell {c} is outside grid of size {shapeText s}"
  | .noSuchCell g n =>
    (Number.intText? g).map fun g ↦ s!"Global index {g} out of range [0, {(n : Int) - 1}]"
  | .inactiveCell c => c.text.map fun c ↦ s!"Cell {c} is not active"
  | .propertyShape name found n =>
    some s!"Property {name} has shape {shapeText found}, expected ({n},)"
  | .noRealProperty name => some s!"No double property '{name}'"
  | .noTableProperty name => some s!"No integer property '{name}'"
  | .unsupportedKeyword k => some s!"Unsupported keyword '{k}'"
  | .unknownItems k items => some s!"Keyword {k} has no item(s) {Text.quotedList items}"
  | .itemRequired k item => some s!"Keyword {k}: item {item} must be given"
  | .noSuchItem k item => some s!"Keyword {k} has no item '{item}'"
  | .recordLacksItem k item => some s!"Record of {k} has no item '{item}'"
  | .itemUnset k item => some s!"Item {item} of {k} has no value and no default"
  | .notBoolean text => some s!"Cannot interpret '{text}' as a boolean"
  | .unknownDimension name => some s!"Unknown dimension '{name}'"
  | .badFace text => some s!"Invalid face direction '{text}'"
  | .badFaceCode c => (Number.intText? c).map fun c ↦ s!"Invalid face direction code {c}"
  | .invalid component problems => some s!"{problems.length} {component} problem(s)"
  | .issue i => i.message
  | .endOfStream => some "End of stream reached"
  | .malformed cause _ => some cause.message
  | .storeClosed => some "File not open"
  | .restartMissing path => some s!"Restart file not found: {path}"
  | .badByteOrder text => some s!"endian must be '<' or '>', got {Text.quoted text}"
  | .noArray | .outOfMemory | .badSolutionCode _ | .divisionByZero | .tooLarge | .notANumber
  | .notNumeric | .noSuchKey | .noSuchPlace | .recordWidth | .entryCount | .notUtf8
  | .unknownCompression _ | .notStorable | .nullInText | .wrongNode | .unusablePlace | .nameless
  | .namelessSearch | .nameTooLong | .unknownRestartFormat _ => none

/-- The fault that is reported for a fault of a deck or a grid. Its message is written first, and an
integer in it may have too many digits for that. -/
def Fault.reported : Fault → Fault
  | .issue i => if i.message.isSome then .issue i else .notANumber
  | .gridDimensions s => if s.text.isSome then .gridDimensions s else .notANumber
  | .outsideGrid c s => if c.text.isSome then .outsideGrid c s else .notANumber
  | .noSuchCell g n => if (Number.intText? g).isSome then .noSuchCell g n else .notANumber
  | f => f

def Text.written : Option String → Except Fault String
  | some s => .ok s
  | none => .error .notANumber

/-- A change of a state that may fail; what was changed before it failed stays. -/
abbrev Attempt (σ : Type) := EStateM Fault σ

namespace Attempt

variable {σ : Type}

def assign : Except Fault σ → Attempt σ Unit
  | .ok s => set s
  | .error e => throw e

def leaves (x : Attempt σ Unit) (s : σ) : σ :=
  match x s with
  | .ok _ t => t
  | .error _ t => t

end Attempt

end Aquifer
