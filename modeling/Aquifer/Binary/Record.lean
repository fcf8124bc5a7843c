import Aquifer.Binary.Bytes
import Aquifer.Fault

namespace Aquifer

/-- The part of a stream that is still unread, and the number of records read. -/
structure Source where
  rest : Bytes
  records : Nat := 0
  deriving DecidableEq, Repr

/-- A step of reading; a step that fails keeps its place in the stream. -/
abbrev Read := EStateM Fault Source

namespace Binary

def frame (o : ByteOrder) (payload : Bytes) : Except Fault Bytes :=
  if fits 4 payload.length then
    let marker := word o 4 payload.length
    .ok (marker ++ payload ++ marker)
  else .error .recordWidth

/-- The next bytes of the stream, as many as asked for or as many as there are. -/
def next (n : Nat) : Read Bytes := fun s ↦
  .ok (s.rest.take n) { s with rest := s.rest.drop n }

def malformed {α : Type} (cause : Malformation) : Read α := fun s ↦
  .error (.malformed cause (some s.records)) s

def readFrame (o : ByteOrder) : Read Bytes := do
  let leading ← next 4
  if leading.length < 4 then throw .endOfStream
  let n := ofWord o leading
  if n < 0 then malformed (.negativeLength n)
  let payload ← next n.toNat
  if payload.length < n.toNat then malformed (.shortPayload n.toNat payload.length)
  let trailing ← next 4
  if trailing.length < 4 then malformed .noTrailingMarker
  if ofWord o trailing ≠ n then malformed (.markerMismatch n (ofWord o trailing))
  modify fun s ↦ { s with records := s.records + 1 }
  return payload

/-- Reads with the end of the stream reported as broken data. -/
def orMalformed {α : Type} (cause : Malformation) (x : Read α) : Read α := fun s ↦
  match x s with
  | .error .endOfStream s => malformed cause s
  | r => r

def readMany {α : Type} (x : Read α) : Nat → Read (List α)
  | 0 => return []
  | n + 1 => do
    let a ← x
    let as ← readMany x n
    return a :: as

def readAll {α : Type} (x : Read α) (bs : Bytes) : Except Fault α :=
  match x ⟨bs, 0⟩ with
  | .ok a _ => .ok a
  | .error e _ => .error e

end Binary

end Aquifer
