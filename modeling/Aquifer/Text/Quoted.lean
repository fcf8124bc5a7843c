import Aquifer.Text.ShownTable

namespace Aquifer.Text

def isShown (c : Char) : Bool :=
  !unshownRanges.any fun r ↦ r.1 ≤ c.toNat && c.toNat ≤ r.2

def hexPadded (width n : Nat) : List Char :=
  let ds := Nat.toDigits 16 n
  List.replicate (width - ds.length) '0' ++ ds

def codeEscape (c : Char) : List Char :=
  let n := c.toNat
  if n < 0x100 then '\\' :: 'x' :: hexPadded 2 n
  else if n < 0x10000 then '\\' :: 'u' :: hexPadded 4 n
  else '\\' :: 'U' :: hexPadded 8 n

def quoteChar (mark c : Char) : List Char :=
  if c = mark ∨ c = '\\' then ['\\', c]
  else if c = '\n' then ['\\', 'n']
  else if c = '\r' then ['\\', 'r']
  else if c = '\t' then ['\\', 't']
  else if isShown c then [c]
  else codeEscape c

def quoteMark (s : String) : Char :=
  if s.toList.contains '\'' && !s.toList.contains '"' then '"' else '\''

def quoted (s : String) : String :=
  let q := quoteMark s
  String.ofList (q :: (s.toList.flatMap (quoteChar q) ++ [q]))

def bracketed (xs : List String) : String := "[" ++ ", ".intercalate xs ++ "]"

def quotedList (xs : List String) : String := bracketed (xs.map quoted)

def tupled : List String → String
  | [x] => "(" ++ x ++ ",)"
  | xs => "(" ++ ", ".intercalate xs ++ ")"

end Aquifer.Text
