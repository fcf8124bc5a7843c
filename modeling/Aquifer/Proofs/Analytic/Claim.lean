import Aquifer.Analytic.Influx
import Aquifer.Proofs.Grid.Box

namespace Aquifer

structure ClaimTerms where
  aquifer : Int
  box : Box
  face : Face
  internal : Bool
  multiplier : Double
  coefficient : Option Double

namespace ClaimTerms

def ofRecord (r : Record) : Except Fault ClaimTerms := do
  let aquifer ← r.int "AQUIFER_ID"
  let box ← Box.ofRecord r
  let face ← Face.ofText (← r.trimmed "FACE")
  let internal ← readFlag (← r.trimmed "CONNECT_ADJOINING_ACTIVE_CELL")
  let multiplier ← r.real "INFLUX_MULT"
  let coefficient ← r.givenOr "INFLUX_COEFF" (fun name ↦ some <$> r.si name) (.ok none)
  return ⟨aquifer, box, face, internal, multiplier, coefficient⟩

def claim (t : ClaimTerms) (g : Grid) (c : Coord) : Claim :=
  let n := g.dims.linear c
  ⟨c, ⟨t.aquifer, n, t.coefficient.getD (g.area n t.face) * t.multiplier, t.face⟩⟩

def claims (t : ClaimTerms) (g : Grid) : List Claim :=
  (t.box.places.filter (g.connects (g.mapOr none) t.internal t.face)).map (t.claim g)

variable {r : Record} {g : Grid} {t : ClaimTerms}

theorem exists_ofRecord (hr : r.Conforms .aquancon) (hface : r.HasFace "FACE")
    (hflag : r.HasFlag "CONNECT_ADJOINING_ACTIVE_CELL") : ∃ t, ofRecord r = .ok t := by
  obtain ⟨id, hid⟩ := hr.exists_int "AQUIFER_ID" rfl rfl (Or.inl rfl)
  obtain ⟨box, hbox⟩ := Box.exists_ofRecord hr (by decide)
  obtain ⟨u, f, hu, hf⟩ := hface
  obtain ⟨v, b, hv, hb⟩ := hflag
  obtain ⟨multiplier, hmultiplier⟩ := hr.exists_real "INFLUX_MULT" rfl rfl (Or.inl rfl)
  obtain ⟨coefficient, hcoefficient⟩ := hr.exists_givenOr_none "INFLUX_COEFF" rfl rfl
  exact ⟨_, by
    simp only [ofRecord, hid, hbox, hu, hf, hv, hb, hmultiplier, hcoefficient, Except.ok_bind]
    rfl⟩

/-- The terms are what the record says: the numbers that it holds, the corners of its box, and the
coefficient in SI if it gives one. -/
structure Describes (t : ClaimTerms) (r : Record) : Prop where
  aquifer : r.HasInt "AQUIFER_ID" t.aquifer
  box : r.Spans t.box
  face : ∃ u, r.HasText "FACE" u ∧ Face.ofText (Text.trim u) = .ok t.face
  internal : ∃ u, r.HasText "CONNECT_ADJOINING_ACTIVE_CELL" u ∧
    readFlag (Text.trim u) = .ok t.internal
  multiplier : r.HasReal "INFLUX_MULT" t.multiplier
  coefficient : r.MeasuresIfGiven "INFLUX_COEFF" .area t.coefficient

theorem describes_of_ofRecord (hr : r.Conforms .aquancon) (h : ofRecord r = .ok t) :
    t.Describes r := by
  simp only [ofRecord, Except.bind_eq_ok_iff] at h
  obtain ⟨id, hid, box, hbox, u, hu, f, hf, v, hv, b, hb, multiplier, hmultiplier, coefficient,
    hcoefficient, h⟩ := h
  cases Except.ok.inj h
  obtain ⟨face, hface, rfl⟩ := hr.exists_hasText "FACE" rfl rfl rfl hu
  obtain ⟨flag, hflag, rfl⟩ := hr.exists_hasText "CONNECT_ADJOINING_ACTIVE_CELL" rfl rfl rfl hv
  exact ⟨hr.hasInt_of_int "AQUIFER_ID" rfl rfl rfl hid, Box.spans_of_ofRecord hr (by decide) hbox,
    ⟨face, hface, hf⟩, ⟨flag, hflag, hb⟩, hr.hasReal_of_real "INFLUX_MULT" rfl rfl rfl hmultiplier,
    hr.measuresIfGiven_of_givenOr "INFLUX_COEFF" rfl rfl rfl rfl hcoefficient⟩

theorem ofCell_eq (t : ClaimTerms) {c : Coord} (h : g.dims.contains c = true) :
    Claim.ofCell g t.aquifer t.face t.coefficient t.multiplier c = .ok (t.claim g c) := by
  rw [Claim.ofCell, Dims.index_of_contains h, Except.ok_bind, claim]
  cases t.coefficient with
  | none => rw [Grid.faceArea_of_contains h]; rfl
  | some x => rfl

theorem filter_connects_cells (b : Box) (m : ActiveMap) (internal : Bool) (f : Face) :
    (b.cells g.dims).filter (g.connects m internal f) =
      b.places.filter (g.connects m internal f) := by
  rw [Box.cells_eq_filter, List.filter_filter]
  refine List.filter_congr fun c _ ↦ ?_
  rw [Bool.and_eq_left_iff_imp]
  exact Grid.contains_of_connects

theorem ofRecord_eq_claims (h : ofRecord r = .ok t) : Claim.ofRecord g r = .ok (t.claims g) := by
  simp only [ofRecord, Except.bind_eq_ok_iff] at h
  obtain ⟨id, hid, box, hbox, u, hu, f, hf, v, hv, b, hb, multiplier, hmultiplier, coefficient,
    hcoefficient, h⟩ := h
  cases Except.ok.inj h
  have hmap : (g.mapOr none).size = g.dims.size := Grid.size_mapOr nofun
  simp only [Claim.ofRecord, hid, hbox, hu, hf, hv, hb, hmultiplier, hcoefficient, Except.ok_bind,
    Except.filterM_eq_ok (Grid.connectable_eq hmap b f), filter_connects_cells]
  refine Except.mapM_eq_ok_map fun c hc ↦ ?_
  exact ofCell_eq ⟨id, box, f, b, multiplier, coefficient⟩
    (Grid.contains_of_connects (List.mem_filter.mp hc).2)

theorem numbers_of_mem_claims {x : Claim} (h : x ∈ t.claims g) :
    g.dims.Numbers x.place x.cell.index := by
  obtain ⟨c, hc, rfl⟩ := List.mem_map.mp h
  exact ⟨Grid.contains_of_connects (List.mem_filter.mp hc).2, rfl⟩

end ClaimTerms

end Aquifer
