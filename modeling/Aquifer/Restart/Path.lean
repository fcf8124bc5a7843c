import Aquifer.Fault
import Aquifer.Text.Null

namespace Aquifer

inductive PathRoot where
  | here
  | slash
  | doubleSlash
  deriving DecidableEq, Repr

def PathRoot.text : PathRoot → String
  | .here => ""
  | .slash => "/"
  | .doubleSlash => "//"

def PathRoot.ofSlashes : Nat → PathRoot
  | 0 => .here
  | 2 => .doubleSlash
  | _ => .slash

structure Path where
  root : PathRoot
  parts : List String
  deriving DecidableEq, Repr

namespace Path

/-- Whether a name between slashes is kept: empty names and single dots are not. -/
def keeps (name : String) : Bool := name ≠ "" && name ≠ "."

def ofText (s : String) : Path where
  root := .ofSlashes (s.toList.takeWhile (· == '/')).length
  parts := (s.splitOn "/").filter keeps

def text (p : Path) : String :=
  if p.root = .here ∧ p.parts = [] then "." else p.root.text ++ "/".intercalate p.parts

/-- A path continued by another; an absolute one takes its place. -/
def join (p q : Path) : Path :=
  if q.root = .here then { p with parts := p.parts ++ q.parts } else q

def name (p : Path) : String := p.parts.getLastD ""

def parent (p : Path) : Path := { p with parts := p.parts.dropLast }

def hasNull (p : Path) : Bool := p.parts.any Text.hasNull

def untilNull (p : Path) : Path :=
  { p with parts := p.parts.dropLast ++ p.parts.getLast?.toList.map Text.untilNull }

def maxNameBytes : Nat := 255

def check (p : Path) : Except Fault Unit :=
  if p.hasNull then .error .nullInText
  else if p.parts.any (maxNameBytes < ·.utf8ByteSize) then .error .nameTooLong
  else .ok ()

/-- The names on the way with the steps upward taken, given the names passed so far, last first. A
step upward from the start of a relative path stays. -/
def settle (absolute : Bool) : List String → List String → List String
  | passed, [] => passed.reverse
  | passed, ".." :: rest =>
    match passed with
    | [] => settle absolute (if absolute then [] else [".."]) rest
    | n :: before => settle absolute (if n = ".." then ".." :: passed else before) rest
  | passed, n :: rest => settle absolute (n :: passed) rest

def resolved (p : Path) : Path where
  root := if p.root = .here then .here else .slash
  parts := settle (p.root ≠ .here) [] p.parts

def isLocal (p : Path) : Bool := p.root = .here && p.parts.head? ≠ some ".."

end Path

end Aquifer
