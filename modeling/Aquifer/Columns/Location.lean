import Aquifer.Text.Null

namespace Aquifer

abbrev Location := List String

namespace Location

def beneath (p q : Location) : Bool := p.isPrefixOf q

def names (s : String) : List String := (s.splitOn "/").filter (· != "")

def along (names : List String) : Location := names.filter (· != ".")

def ofText? (s : String) : Option Location :=
  let s := Text.untilNull s
  if s = "" then none else some (along (names s))

/-- The place of the entry that a text names last; a text without names, and one that ends in a
single dot, name none. -/
def ofEntry? (s : String) : Option Location :=
  let ns := names (Text.untilNull s)
  match ns.getLast? with
  | none | some "." => none
  | some _ => some (along ns)

def text (p : Location) : String := "/".intercalate p

def ancestors (p : Location) : List Location := (List.range p.length).map p.take

end Location

end Aquifer
