import Aquifer.Binary.Codec

namespace Aquifer

inductive RecordKind where
  | bytes
  | int
  | real
  | flag
  | text
  | ints
  | reals
  | optionalReal
  deriving DecidableEq

inductive Entry where
  | bytes (bs : Bytes)
  | int (n : Int)
  | real (x : Double)
  | flag (b : Bool)
  | text (s : String)
  | ints (ns : List Int)
  | reals (xs : List Double)
  | optionalReal (x : Option Double)
  deriving DecidableEq

/-- Where a reading stops, also if it fails. -/
def Read.stop {α : Type} (x : Read α) (s : Source) : Source :=
  match x s with
  | .ok _ t | .error _ t => t

namespace RecordKind

def read (o : ByteOrder) : RecordKind → Read Entry
  | .bytes => do return .bytes (← Codec.payload.read o)
  | .int => do return .int (← Codec.int.read o)
  | .real => do return .real (← Codec.real.read o)
  | .flag => do return .flag (← Codec.flag.read o)
  | .text => do return .text (← Codec.text.read o)
  | .ints => do return .ints (← Codec.ints.read o)
  | .reals => do return .reals (← Codec.reals.read o)
  | .optionalReal => do return .optionalReal (← (Codec.optional Codec.real).read o)

def after (o : ByteOrder) (s : Source) (k : RecordKind) : Source := (k.read o).stop s

def run (o : ByteOrder) (ks : List RecordKind) (s : Source) : Source := ks.foldl (after o) s

def readEach (o : ByteOrder) : List RecordKind → Read (List Entry)
  | [] => return []
  | k :: ks => do
    let x ← k.read o
    let xs ← readEach o ks
    return x :: xs

end RecordKind

/-- A step of writing at the end of a stream; a step that fails keeps what it has written. -/
abbrev Write := EStateM Fault Bytes

namespace Write

def emit (bs : Bytes) : Write Unit := modify (· ++ bs)

def frame (o : ByteOrder) (payload : Bytes) : Write Unit := do
  if ¬Binary.fits 4 payload.length then throw .recordWidth
  let marker := Binary.word o 4 payload.length
  emit marker
  emit payload
  emit marker

def int (o : ByteOrder) (n : Int) : Write Unit := do
  if ¬Binary.fits 8 n then throw .recordWidth
  frame o (Binary.word o 8 n)

def real (o : ByteOrder) (x : Double) : Write Unit := frame o (Codec.realWord o x)

def flag (o : ByteOrder) (b : Bool) : Write Unit := int o (if b then 1 else 0)

def text (o : ByteOrder) (s : String) : Write Unit := frame o (Codec.textBytes s)

def ints (o : ByteOrder) (ns : List Int) : Write Unit := do
  if ¬ns.all (Binary.fits 8) then throw .tooLarge
  frame o (ns.flatMap (Binary.word o 8))

def reals (o : ByteOrder) (xs : List Double) : Write Unit := frame o (xs.flatMap (Codec.realWord o))

def optionalReal (o : ByteOrder) (x : Option Double) : Write Unit := do
  flag o x.isSome
  match x with
  | none => return ()
  | some x => real o x

end Write

namespace Entry

def kind : Entry → RecordKind
  | .bytes _ => .bytes
  | .int _ => .int
  | .real _ => .real
  | .flag _ => .flag
  | .text _ => .text
  | .ints _ => .ints
  | .reals _ => .reals
  | .optionalReal _ => .optionalReal

def write (o : ByteOrder) : Entry → Write Unit
  | .bytes bs => .frame o bs
  | .int n => .int o n
  | .real x => .real o x
  | .flag b => .flag o b
  | .text s => .text o s
  | .ints ns => .ints o ns
  | .reals xs => .reals o xs
  | .optionalReal x => .optionalReal o x

/-- Calls on one writer, each made on the stream that the one before it left. Gives the entries
whose calls did not fail, and the stream in the end. -/
def writeEach (o : ByteOrder) : List Entry → Bytes → List Entry × Bytes
  | [], s => ([], s)
  | x :: xs, s =>
    match x.write o s with
    | .ok _ t => let (taken, u) := writeEach o xs t; (x :: taken, u)
    | .error _ t => writeEach o xs t

end Entry

end Aquifer
