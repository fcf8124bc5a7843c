import Aquifer.Proofs.Grid.Activity
import Aquifer.Proofs.Numerical.Cell
import Aquifer.Proofs.Written

namespace Aquifer

namespace Properties

variable {g : Grid} {p : Properties} {porosity : Coord → Double} {tables : String → Coord → Int}
  {c : Coord} {n : Nat}

end Properties

namespace StorageCell

variable {g : Grid} {p : Properties} {r : Record} {porosity : Coord → Double}
  {tables : String → Coord → Int} {id : Int} {c : Coord} {x : StorageCell}

end StorageCell

end Aquifer
