import Aquifer.Numerical.Coupling
import Aquifer.Proofs.Grid.Numbering

namespace Aquifer

structure CouplingTerms where
  aquifer : Int
  box : Box
  internal : Bool
  face : Face
  multiplier : Double
  option : Int
  relpermFraction : Double
  capillaryFraction : Double

namespace CouplingTerms

def ofRecord (r : Record) : Except Fault CouplingTerms := do
  let aquifer ← r.int "ID"
  let box ← Box.ofRecord r
  let internal ← readFlag (← r.trimmed "ALLOW_INTERNAL_CELLS")
  let face ← Face.ofText (← r.trimmed "CONNECT_FACE")
  let multiplier ← r.real "TRANS_MULT"
  let option ← r.int "TRANS_OPTION"
  let relperm ← r.real "VEFRAC"
  let capillary ← r.real "VEFRACP"
  return ⟨aquifer, box, internal, face, multiplier, option, relperm, capillary⟩

/-- Whether a place is in the box, active, and, unless internal cells are admitted, without an
active neighbour across the face. -/
def covers (t : CouplingTerms) (g : Grid) (m : ActiveMap) (c : Coord) : Bool :=
  t.box.contains c && g.connects m t.internal t.face c

def coupling (t : CouplingTerms) (c : Coord) (n : Int) : Coupling :=
  ⟨t.aquifer, c, n, t.face, t.multiplier, t.option, t.internal, t.relpermFraction,
    t.capillaryFraction⟩

/-- The couplings of the covered cells, met in the order of all cell numbers of the grid. -/
def scan (t : CouplingTerms) (g : Grid) (m : ActiveMap) : List Coupling :=
  ((List.range g.dims.size).filter fun (n : Nat) ↦ t.covers g m (g.dims.delinear n)).map
    fun (n : Nat) ↦ t.coupling (g.dims.delinear n) n

variable {r : Record} {g : Grid} {override : Option ActiveMap} {m : ActiveMap} {t : CouplingTerms}
  {c : Coord} {y : Coupling}

theorem exists_ofRecord (hr : r.Conforms .aqucon) (hface : r.HasFace "CONNECT_FACE")
    (hflag : r.HasFlag "ALLOW_INTERNAL_CELLS") : ∃ t, ofRecord r = .ok t := by
  obtain ⟨id, hid⟩ := hr.exists_int "ID" rfl rfl (Or.inl rfl)
  obtain ⟨box, hbox⟩ := Box.exists_ofRecord hr (by decide)
  obtain ⟨u, f, hu, hf⟩ := hface
  obtain ⟨v, b, hv, hb⟩ := hflag
  obtain ⟨multiplier, hmultiplier⟩ := hr.exists_real "TRANS_MULT" rfl rfl (Or.inl rfl)
  obtain ⟨option, hoption⟩ := hr.exists_int "TRANS_OPTION" rfl rfl (Or.inl rfl)
  obtain ⟨relperm, hrelperm⟩ := hr.exists_real "VEFRAC" rfl rfl (Or.inl rfl)
  obtain ⟨capillary, hcapillary⟩ := hr.exists_real "VEFRACP" rfl rfl (Or.inl rfl)
  exact ⟨_, by
    simp only [ofRecord, hid, hbox, hu, hf, hv, hb, hmultiplier, hoption, hrelperm, hcapillary,
      Except.ok_bind]
    rfl⟩

structure Describes (t : CouplingTerms) (r : Record) : Prop where
  aquifer : r.HasInt "ID" t.aquifer
  box : r.Spans t.box
  internal : ∃ u, r.HasText "ALLOW_INTERNAL_CELLS" u ∧ readFlag (Text.trim u) = .ok t.internal
  face : ∃ u, r.HasText "CONNECT_FACE" u ∧ Face.ofText (Text.trim u) = .ok t.face
  multiplier : r.HasReal "TRANS_MULT" t.multiplier
  option : r.HasInt "TRANS_OPTION" t.option
  relpermFraction : r.HasReal "VEFRAC" t.relpermFraction
  capillaryFraction : r.HasReal "VEFRACP" t.capillaryFraction

theorem describes_of_ofRecord (hr : r.Conforms .aqucon) (h : ofRecord r = .ok t) :
    t.Describes r := by
  simp only [ofRecord, Except.bind_eq_ok_iff] at h
  obtain ⟨id, hid, box, hbox, u, hu, b, hb, v, hv, f, hf, multiplier, hmultiplier, option, hoption,
    relperm, hrelperm, capillary, hcapillary, h⟩ := h
  cases Except.ok.inj h
  obtain ⟨flag, hflag, rfl⟩ := hr.exists_hasText "ALLOW_INTERNAL_CELLS" rfl rfl rfl hu
  obtain ⟨face, hface, rfl⟩ := hr.exists_hasText "CONNECT_FACE" rfl rfl rfl hv
  exact ⟨hr.hasInt_of_int "ID" rfl rfl rfl hid, Box.spans_of_ofRecord hr (by decide) hbox,
    ⟨flag, hflag, hb⟩, ⟨face, hface, hf⟩, hr.hasReal_of_real "TRANS_MULT" rfl rfl rfl hmultiplier,
    hr.hasInt_of_int "TRANS_OPTION" rfl rfl rfl hoption,
    hr.hasReal_of_real "VEFRAC" rfl rfl rfl hrelperm,
    hr.hasReal_of_real "VEFRACP" rfl rfl rfl hcapillary⟩

theorem id_of_ofRecord (h : ofRecord r = .ok t) : r.int "ID" = .ok t.aquifer := by
  simp only [ofRecord, Except.bind_eq_ok_iff] at h
  obtain ⟨id, hid, box, -, u, -, b, -, v, -, f, -, multiplier, -, option, -, relperm, -, capillary,
    -, h⟩ := h
  cases Except.ok.inj h
  exact hid

/-- Going through the box of a record finds what going through the whole grid finds. -/
theorem map_coupling_cells (t : CouplingTerms) (g : Grid) (m : ActiveMap) :
    ((t.box.cells g.dims).filter (g.connects m t.internal t.face)).map
      (fun c ↦ t.coupling c (g.dims.linear c)) = t.scan g m := by
  rw [Box.cells_eq_scan, List.filter_filter, List.filter_map, List.map_map, scan]
  have hcovers : (fun c ↦ g.connects m t.internal t.face c && t.box.contains c) = t.covers g m := by
    funext c
    exact Bool.and_comm ..
  rw [hcovers]
  refine List.map_congr_left fun n _ ↦ ?_
  rw [Function.comp_apply, Dims.linear_delinear]

/-- The couplings of a record are those that its terms cover, in the order of their numbers. -/
theorem ofRecord_eq_scan (ho : ∀ m ∈ override, m.size = g.dims.size) :
    Coupling.ofRecord g override r =
      (ofRecord r).map fun t ↦ t.scan g (g.mapOr override) := by
  show _ = (fun t ↦ t.scan g (g.mapOr override)) <$> ofRecord r
  simp only [Coupling.ofRecord, ofRecord, map_bind, map_pure, ← map_coupling_cells,
    Except.filterM_eq_ok (Grid.connectable_eq (Grid.size_mapOr ho) _ _), Except.ok_bind]
  rfl

theorem mapM_ofRecord {rs : List Record} {ts : List CouplingTerms}
    (ho : ∀ m ∈ override, m.size = g.dims.size) (h : rs.mapM ofRecord = .ok ts) :
    rs.mapM (Coupling.ofRecord g override) = .ok (ts.map fun t ↦ t.scan g (g.mapOr override)) := by
  rw [Except.mapM_eq_ok_iff] at h ⊢
  rw [List.forall₂_map_right_iff]
  apply h.imp
  intro r t ht
  rw [ofRecord_eq_scan ho, ht]
  rfl

theorem expand_eq (ho : ∀ m ∈ override, m.size = g.dims.size) (h : ofRecord r = .ok t) :
    Coupling.expand g override r =
      ⟨[.expanded t.aquifer (t.scan g (g.mapOr override)).length],
        .ok (t.scan g (g.mapOr override))⟩ := by
  rw [Coupling.expand, ofRecord_eq_scan ho, h, id_of_ofRecord h]
  rfl

theorem pairwise_scan (t : CouplingTerms) (g : Grid) (m : ActiveMap) :
    (t.scan g m).Pairwise fun x y ↦ x.index < y.index := by
  rw [scan, List.pairwise_map]
  exact (List.pairwise_lt_range.filter _).imp Int.ofNat_lt.mpr

theorem contains_of_covers (h : t.covers g m c = true) : g.dims.contains c = true := by
  rw [covers, Bool.and_eq_true] at h
  exact Grid.contains_of_connects h.2

theorem mem_scan : y ∈ t.scan g m ↔
    t.covers g m y.place = true ∧ y = t.coupling y.place (g.dims.linear y.place) := by
  rw [scan, List.mem_map]
  constructor
  · rintro ⟨n, hn, rfl⟩
    exact ⟨(List.mem_filter.mp hn).2, congrArg (t.coupling _) (Dims.linear_delinear ..).symm⟩
  · rintro ⟨hcovers, hy⟩
    have hin := contains_of_covers hcovers
    have hdelinear : g.dims.delinear ((g.dims.linear y.place).toNat : Int) = y.place := by
      rw [Int.toNat_of_nonneg (Dims.linear_nonneg hin), Dims.delinear_linear hin]
    refine ⟨(g.dims.linear y.place).toNat, List.mem_filter.mpr ⟨?_, ?_⟩, ?_⟩
    · exact List.mem_range.mpr (Dims.toNat_linear_lt hin)
    · rwa [hdelinear]
    · rw [hdelinear, Int.toNat_of_nonneg (Dims.linear_nonneg hin), ← hy]

theorem coupling_mem_scan (h : t.covers g m c = true) :
    t.coupling c (g.dims.linear c) ∈ t.scan g m :=
  mem_scan.mpr ⟨h, rfl⟩

theorem numbers_of_mem_scan (h : y ∈ t.scan g m) : g.dims.Numbers y.place y.index := by
  obtain ⟨hcovers, hy⟩ := mem_scan.mp h
  exact ⟨contains_of_covers hcovers, congrArg Coupling.index hy⟩

theorem nodup_places_scan (t : CouplingTerms) (g : Grid) (m : ActiveMap) :
    ((t.scan g m).map (·.place)).Nodup := by
  rw [List.Nodup, List.pairwise_map]
  refine (t.pairwise_scan g m).imp_of_mem fun hx hy hlt hplace ↦ ?_
  have hindex := ((numbers_of_mem_scan hx).eq_iff (numbers_of_mem_scan hy)).mpr hplace
  exact Int.ne_of_lt hlt hindex

/-- A record whose face and flag can be read makes the couplings that a scan of the whole grid
finds, in the order of the cells' numbers and none twice. With the grid's own map they are the same
as without any. -/
theorem expand_eq_scan (hr : r.Conforms .aqucon) (ho : ∀ m ∈ override, m.size = g.dims.size)
    (hface : r.HasFace "CONNECT_FACE") (hflag : r.HasFlag "ALLOW_INTERNAL_CELLS") :
    ∃ t ys, ofRecord r = .ok t ∧ t.Describes r ∧ ys = t.scan g (g.mapOr override) ∧
      Coupling.expand g override r = ⟨[.expanded t.aquifer ys.length], .ok ys⟩ ∧
      (∀ y, y ∈ ys ↔ t.covers g (g.mapOr override) y.place = true ∧
        y = t.coupling y.place (g.dims.linear y.place)) ∧
      ys.Pairwise (fun x y ↦ x.index < y.index) ∧ (ys.map (·.place)).Nodup ∧
      Coupling.expand g (some g.active.toArray) r = Coupling.expand g none r := by
  obtain ⟨t, ht⟩ := exists_ofRecord hr hface hflag
  exact ⟨t, _, ht, describes_of_ofRecord hr ht, rfl, expand_eq ho ht, fun _ ↦ mem_scan,
    pairwise_scan .., nodup_places_scan .., rfl⟩

/-- Of three cells in the block's first row, the first one is inactive and the last one has an
active neighbour across the face. The box hangs over the block along two axes. -/
theorem expand_eq_scan_overhanging :
    let row := Row.coupling 4 ⟨2, 0, 2⟩ ⟨4, 1, 9⟩ "I-"
    ∃ (r : Record) (t : CouplingTerms) (ys : List Coupling),
      Record.ofRow "AQUCON" row .metric = .ok r ∧ t.Describes r ∧
      t.box = ⟨⟨1, -1, 1⟩, ⟨3, 0, 8⟩⟩ ∧ (Coupling.expand .block none r).result = .ok ys ∧
      ys.map (fun y ↦ (y.aquifer, y.place, y.index, y.face)) =
        [(4, ⟨2, 0, 1⟩, 14, ⟨.x, false⟩)] := by
  intro row
  have hrow : Record.ofRow "AQUCON" row .metric = .ok (.ofItems row .aqucon) :=
    Record.ofRow_of_resolves .aqucon rfl rfl .metric
  have ho : ∀ m ∈ (none : Option ActiveMap), m.size = Grid.block.dims.size := nofun
  obtain ⟨t, ys, ht, hdescribes, hys, hexpand, -⟩ :=
    expand_eq_scan (Record.conforms_of_ofRow hrow rfl) ho ⟨_, _, rfl, rfl⟩ ⟨_, _, rfl, rfl⟩
  cases Except.ok.inj ht
  refine ⟨_, _, ys, hrow, hdescribes, rfl, by rw [hexpand], ?_⟩
  rw [hys]
  rfl

end CouplingTerms

end Aquifer
