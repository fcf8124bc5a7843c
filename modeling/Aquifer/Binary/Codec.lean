import Aquifer.Binary.Record
import Aquifer.Number.Double

namespace Aquifer

/-- A writer of values and the reader that goes with it. -/
structure Codec (α : Type) where
  write : ByteOrder → α → Except Fault Bytes
  read : ByteOrder → Read α

namespace Codec

variable {α β : Type}

def payload : Codec Bytes := ⟨Binary.frame, Binary.readFrame⟩

def pair (a : Codec α) (b : Codec β) : Codec (α × β) where
  write o x := do return (← a.write o x.1) ++ (← b.write o x.2)
  read o := do return (← a.read o, ← b.read o)

/-- Values under another form. The reader may refuse a form; it knows how many records were read
before. -/
def refine (a : Codec α) (form : Nat → α → Except Fault β) (unform : β → α) : Codec β where
  write o x := a.write o (unform x)
  read o := do
    let x ← a.read o
    match form (← get).records x with
    | .ok y => return y
    | .error e => throw e

def map (a : Codec α) (form : α → β) (unform : β → α) : Codec β where
  write o x := a.write o (unform x)
  read o := do return form (← a.read o)

def int : Codec Int where
  write o n := if Binary.fits 8 n then Binary.frame o (Binary.word o 8 n) else .error .recordWidth
  read o := do
    let bs ← Binary.readFrame o
    if bs.length = 8 then return Binary.ofWord o bs else throw .recordWidth

def realWord (o : ByteOrder) (x : Double) : Bytes := Binary.word o 8 x.bits.toNat

def ofRealWord (o : ByteOrder) (bs : Bytes) : Double :=
  ⟨UInt64.ofNat (Binary.ofWordUnsigned o bs)⟩

def real : Codec Double where
  write o x := Binary.frame o (realWord o x)
  read o := do
    let bs ← Binary.readFrame o
    if bs.length = 8 then return ofRealWord o bs else throw .recordWidth

/-- A truth value, as zero or one; every other integer reads as true. -/
def flag : Codec Bool := int.map (· != 0) fun b ↦ if b then 1 else 0

def eights : Bytes → List Bytes
  | a :: b :: c :: d :: e :: f :: g :: h :: rest => [a, b, c, d, e, f, g, h] :: eights rest
  | _ => []

def words (write : ByteOrder → α → Bytes) (read : ByteOrder → Bytes → α) : Codec (List α) where
  write o xs := Binary.frame o (xs.flatMap (write o))
  read o := do
    let bs ← Binary.readFrame o
    if bs.length % 8 = 0 then return (eights bs).map (read o) else throw .entryCount

def reals : Codec (List Double) := words realWord ofRealWord

def ints : Codec (List Int) :=
  let c := words (Binary.word · 8) Binary.ofWord
  { c with write := fun o xs ↦ if xs.all (Binary.fits 8) then c.write o xs else .error .tooLarge }

def textBytes (s : String) : Bytes := s.toUTF8.data.toList

def ofTextBytes (bs : Bytes) : Except Fault String :=
  match String.fromUTF8? ⟨bs.toArray⟩ with
  | some s => .ok s
  | none => .error .notUtf8

def text : Codec String := payload.refine (fun _ ↦ ofTextBytes) textBytes

def optional (a : Codec α) : Codec (Option α) where
  write o
    | none => flag.write o false
    | some x => do return (← flag.write o true) ++ (← a.write o x)
  read o := do if ← flag.read o then return some (← a.read o) else return none

def writeList (a : Codec α) (o : ByteOrder) : List α → Except Fault Bytes
  | [] => .ok []
  | x :: xs => do return (← a.write o x) ++ (← a.writeList o xs)

/-- A number and as many values; a negative number stands for none. -/
def counted (a : Codec α) : Codec (List α) where
  write o xs := do return (← int.write o xs.length) ++ (← a.writeList o xs)
  read o := do
    let n ← int.read o
    Binary.readMany (a.read o) n.toNat

end Codec

end Aquifer
