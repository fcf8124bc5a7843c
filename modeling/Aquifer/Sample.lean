import Aquifer.Binary.Bytes
import Aquifer.Configuration

namespace Aquifer.Sample

structure BoxShape where
  size : Coord := ⟨5, 3, 2⟩
  dx : Double := 100.0
  dy : Double := 100.0
  dz : Double := 10.0
  top : Double := 2000.0

def grid (b : BoxShape) : Except Fault Grid :=
  Grid.ofArrays b.size { dx := .real b.dx, dy := .real b.dy, dz := .real b.dz, tops := .real b.top }

def tableWord (n : Int) : Except Fault Int :=
  if Binary.fits 8 n || Binary.fitsUnsigned 8 n then .ok (Int32.ofInt n).toInt
  else .error .tooLarge

def properties (g : Grid) (porosity : Double := 0.25) (satTable : Int := 2) :
    Except Fault Properties := do
  let everywhere (x : Raw) := Raw.list (List.replicate g.activeCount x)
  Properties.ofArrays g (Keyed.ofList [("PORO", everywhere (.real porosity))])
    (Keyed.ofList [("PVTNUM", everywhere (.int 1)),
      ("SATNUM", everywhere (.int (← tableWord satTable)))])

def rows : List (String × List Row) :=
  let ints (ns : List (String × Int)) := ns.map fun e ↦ (e.1, Raw.int e.2)
  let reals (xs : List (String × Double)) := xs.map fun e ↦ (e.1, Raw.real e.2)
  let cell (id i j k : Int) := ints [("AQUIFER_ID", id), ("I", i), ("J", j), ("K", k)]
  let box (i₁ i₂ j₁ j₂ k₁ k₂ : Int) :=
    ints [("I1", i₁), ("I2", i₂), ("J1", j₁), ("J2", j₂), ("K1", k₁), ("K2", k₂)]
  let large := reals [("CROSS_SECTION", 1.0e5), ("LENGTH", 5000.0), ("PERM", 500.0)]
  [("AQUNUM", [
      Keyed.ofList (cell 1 5 1 1 ++ large),
      Keyed.ofList (cell 1 5 2 1 ++ large ++ reals [("INITIAL_PRESSURE", 200.0)]),
      Keyed.ofList (cell 2 5 3 2 ++
        reals [("CROSS_SECTION", 2.0e4), ("LENGTH", 1000.0), ("PORO", 0.3), ("PERM", 100.0),
          ("DEPTH", 2100.0), ("INITIAL_PRESSURE", 210.0)] ++
        ints [("PVT_TABLE_NUM", 2), ("SAT_TABLE_NUM", 3)])]),
    ("AQUCON", [
      Keyed.ofList (ints [("ID", 1)] ++ box 1 1 1 3 1 1 ++ [("CONNECT_FACE", .text "I-")]),
      Keyed.ofList (ints [("ID", 2)] ++ box 1 1 1 3 2 2 ++ [("CONNECT_FACE", .text "I-")] ++
        reals [("TRANS_MULT", 0.5)])]),
    ("AQUFETP", [
      Keyed.ofList (ints [("AQUIFER_ID", 1)] ++ reals [("DAT_DEPTH", 2005.0), ("P0", 205.0),
        ("V0", 1.0e9), ("C_T", 1.0e-4), ("PI", 500.0)])]),
    ("AQUCT", [
      Keyed.ofList (ints [("AQUIFER_ID", 1)] ++ reals [("DAT_DEPTH", 2005.0), ("PERM_AQ", 100.0),
        ("PORO_AQ", 0.2), ("C_T", 1.0e-4), ("RAD", 1000.0), ("THICKNESS_AQ", 20.0),
        ("INFLUENCE_ANGLE", 180.0)])]),
    ("AQUFLUX", [Keyed.ofList (ints [("AQUIFER_ID", 3)] ++ reals [("FLUX", 0.01)])]),
    ("AQUANCON", [
      Keyed.ofList (ints [("AQUIFER_ID", 1)] ++ box 2 4 1 1 1 2 ++ [("FACE", .text "J-")])])]

def deck (u : UnitSystem) : Except Fault Deck :=
  rows.foldlM (fun d e ↦ d.add e.1 e.2) { units := u }

def configuration : Traced Configuration := do
  let g ← grid {}
  let d ← deck .metric
  let c ← Configuration.ofDeck d g (← properties g) none none
  c.loadInflux d g

end Aquifer.Sample
