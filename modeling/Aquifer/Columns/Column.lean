import Aquifer.Binary.Bytes
import Aquifer.Raw
import Aquifer.Place

namespace Aquifer

inductive Column where
  | ints (xs : List Int)
  | reals (xs : List Double)
  | flags (xs : List Bool)
  deriving DecidableEq

namespace Column

def size : Column → Nat
  | .ints xs => xs.length
  | .reals xs => xs.length
  | .flags xs => xs.length

def row? (c : Column) (n : Nat) : Option Raw :=
  match c with
  | .ints xs => xs[n]?.map .int
  | .reals xs => xs[n]?.map .real
  | .flags xs => xs[n]?.map .flag

def row (c : Column) (n : Nat) : Except Fault Raw :=
  match c.row? n with
  | some x => .ok x
  | none => .error .noSuchPlace

def slice (c : Column) (first last : Int) : List Raw :=
  match c with
  | .ints xs => (cut xs first last).map .int
  | .reals xs => (cut xs first last).map .real
  | .flags xs => (cut xs first last).map .flag

def toList : Column → List Raw
  | .ints xs => xs.map .int
  | .reals xs => xs.map .real
  | .flags xs => xs.map .flag

/-- Reports a value that is no place of a row; truth values count as zero and one. -/
def checkPlace (c : Column) : Raw → Except Fault Unit
  | .real _ => .error .wrongNode
  | x => do let _ ← atPlace c.toList (← x.toInt)

def checkPlaces (c : Column) : Except Fault Unit := c.toList.forM c.checkPlace

def ofInts (xs : List Int) : Except Fault Column :=
  if xs.all (Binary.fits 8) then .ok (.ints xs) else .error .tooLarge

theorem ofInts_eq_ok_iff {xs : List Int} {c : Column} :
    ofInts xs = .ok c ↔ (∀ n ∈ xs, Binary.fits 8 n = true) ∧ c = .ints xs := by
  rw [← List.all_eq_true, ofInts]
  constructor
  · intro h
    split at h
    · rename_i hf
      exact ⟨hf, (Except.ok.inj h).symm⟩
    · exact nomatch h
  · rintro ⟨hf, rfl⟩
    exact if_pos hf

end Column

inductive Compression where
  | gzip
  | lzf
  | szip
  deriving DecidableEq, Repr

namespace Compression

def name : Compression → String
  | .gzip => "gzip"
  | .lzf => "lzf"
  | .szip => "szip"

/-- The filters that the library of stores is built with; a build without `szip` knows two. -/
def available : List Compression := [gzip, lzf, szip]

def ofName (name : String) : Except Fault Compression :=
  match available.find? (·.name == name) with
  | some c => .ok c
  | none => .error (.unknownCompression name)

def threshold : Nat := 100

/-- How a column of a size is compressed under a setting; a setting is looked at only when there is
something to compress, and the empty one stands for none. -/
def choose (setting : Option String) (size : Nat) : Except Fault (Option Compression) :=
  match setting with
  | none => .ok none
  | some name =>
    if name ≠ "" ∧ threshold < size then (ofName name).map some else .ok none

end Compression

end Aquifer
