import Aquifer.Binary.Layout

namespace Aquifer

namespace Binary

def magic : Bytes := [0x41, 0x51, 0x43, 0x46]

def formatVersion : Int := 1

inductive Content where
  | configuration
  | solutions
  deriving DecidableEq, Repr

def Content.name : Content → String
  | .configuration => "config"
  | .solutions => "data"

def Content.truncated : Content → Malformation
  | .configuration => .truncatedConfiguration
  | .solutions => .truncatedSolution

def head (o : ByteOrder) (k : Content) : Except Fault Bytes := do
  return (← Codec.payload.write o magic) ++ (← Codec.int.write o formatVersion) ++
    (← Codec.text.write o k.name)

/-- Whether a file is written in an order of bytes, judged by its first eight bytes. -/
def startsIn (o : ByteOrder) (bs : Bytes) : Bool := bs.take 8 == word o 4 magic.length ++ magic

def orderOf (bs : Bytes) : Except Fault ByteOrder :=
  if startsIn .little bs then .ok .little
  else if startsIn .big bs then .ok .big
  else .error (.malformed .badMagic (some 0))

def readMark (o : ByteOrder) : Read String := do
  let _ ← Codec.payload.read o
  let v ← Codec.int.read o
  if formatVersion < v ∨ v < 1 then malformed (.unsupportedVersion v formatVersion)
  Codec.text.read o

def readHead (o : ByteOrder) (k : Content) : Read Unit := do
  let found ← orMalformed .truncatedHeader (readMark o)
  if found ≠ k.name then malformed (.wrongKind k.name found)

def encode {α : Type} (k : Content) (c : Codec α) (o : ByteOrder) (x : α) : Except Fault Bytes := do
  return (← head o k) ++ (← c.write o x)

def decode {α : Type} (k : Content) (c : Codec α) (bs : Bytes) : Except Fault α := do
  let o ← orderOf bs
  readAll (do
    readHead o k
    orMalformed k.truncated (c.read o)) bs

end Binary

def Configuration.encode (c : Configuration) (o : ByteOrder) : Except Fault Bytes :=
  Binary.encode .configuration Codec.configuration o c

def Configuration.decode (bs : Bytes) : Except Fault Configuration :=
  Binary.decode .configuration Codec.configuration bs

def Solutions.encode (s : Solutions) (o : ByteOrder) : Except Fault Bytes :=
  Binary.encode .solutions Codec.solutions o s

def Solutions.decode (bs : Bytes) : Except Fault Solutions :=
  Binary.decode .solutions Codec.solutions bs

end Aquifer
