import Aquifer.Binary.Hex
import Aquifer.Columns.Edit
import Aquifer.Proofs.Binary.Normal
import Aquifer.Proofs.Binary.Truncation
import Aquifer.Proofs.Consistent
import Aquifer.Proofs.Numerical.Order
import Aquifer.Proofs.Refusal
import Aquifer.Proofs.Restart.Separation
import Aquifer.Sample
import Aquifer.Proofs.Numerical.Calls
import Aquifer.Proofs.Analytic.Collection
import Aquifer.Proofs.Binary.Blame
import Aquifer.Proofs.Binary.Solutions
import Aquifer.Proofs.Binary.Faults
import Aquifer.Proofs.Deck.Grouping
import Aquifer.Proofs.Deck.Schema
import Aquifer.Proofs.Grid.Numbering
import Aquifer.Proofs.Grid.Array
import Aquifer.Proofs.Grid.Face
import Aquifer.Proofs.Grid.Activity
import Aquifer.Proofs.Numerical.Expansion
import Aquifer.Proofs.Numerical.Merge
import Aquifer.Proofs.Numerical.FirstIssue
import Aquifer.Proofs.Numerical.Inheritance
import Aquifer.Proofs.Binary.Reader
import Aquifer.Proofs.Binary.Extent
import Aquifer.Proofs.Binary.Writer
