import Aquifer.Numerical.Builder
import Aquifer.Proofs.Deck.Record
import Aquifer.Proofs.Grid.Cells
import Aquifer.Proofs.Grid.Properties

namespace Aquifer

def Row.storage (id : Int) (c : Coord) (porosity : Raw := .real 0.25) : Row :=
  ⟨[("AQUIFER_ID", .int id), ("I", .int c.i), ("J", .int c.j), ("K", .int c.k),
    ("CROSS_SECTION", .real 1.0), ("LENGTH", .real 1.0), ("PORO", porosity), ("PERM", .real 1.0)],
    show ["AQUIFER_ID", "I", "J", "K", "CROSS_SECTION", "LENGTH", "PORO", "PERM"].Nodup by decide⟩

/-- The aquifer for which a record declares a storage cell, and the place of the cell. -/
def Record.storage (r : Record) : Except Fault (Int × Coord) := do
  let aquifer ← r.int "AQUIFER_ID"
  let i ← r.int "I"
  let j ← r.int "J"
  let k ← r.int "K"
  return (aquifer, (Coord.mk i j k).zeroBased)

def Grid.Active (g : Grid) (c : Coord) : Prop :=
  g.dims.contains c = true ∧ g.cellActive c = .ok true

theorem Grid.cellActive_of_not_active {g : Grid} {c : Coord} (hin : g.dims.contains c = true)
    (h : ¬g.Active c) : g.cellActive c = .ok false := by
  rw [Grid.Active, Grid.cellActive_of_contains hin] at h
  rw [Grid.cellActive_of_contains hin]
  refine congrArg Except.ok (eq_false_of_ne_true fun hactive ↦ ?_)
  exact h ⟨hin, congrArg Except.ok hactive⟩

variable {r : Record} {g : Grid} {p : Properties} {e : Int × Coord}

namespace Record

theorem Conforms.exists_storage (h : r.Conforms .aqunum) : ∃ e, r.storage = .ok e := by
  obtain ⟨id, hid⟩ := h.exists_int "AQUIFER_ID" rfl rfl (Or.inl rfl)
  obtain ⟨i, hi⟩ := h.exists_int "I" rfl rfl (Or.inl rfl)
  obtain ⟨j, hj⟩ := h.exists_int "J" rfl rfl (Or.inl rfl)
  obtain ⟨k, hk⟩ := h.exists_int "K" rfl rfl (Or.inl rfl)
  exact ⟨_, by rw [storage, hid, hi, hj, hk]; rfl⟩

theorem ints_of_storage (h : r.storage = .ok e) :
    ∃ i j k, r.int "AQUIFER_ID" = .ok e.1 ∧ r.int "I" = .ok i ∧ r.int "J" = .ok j ∧
      r.int "K" = .ok k ∧ e.2 = (Coord.mk i j k).zeroBased := by
  obtain ⟨id, hid, h⟩ := Except.bind_eq_ok_iff.mp h
  obtain ⟨i, hi, h⟩ := Except.bind_eq_ok_iff.mp h
  obtain ⟨j, hj, h⟩ := Except.bind_eq_ok_iff.mp h
  obtain ⟨k, hk, h⟩ := Except.bind_eq_ok_iff.mp h
  cases Except.ok.inj h
  exact ⟨i, j, k, hid, hi, hj, hk, rfl⟩

end Record

namespace Builder

theorem check_eq (h : r.storage = .ok e) : check g r =
    if g.dims.contains e.2 = true then do
      if ← g.cellActive e.2 then .ok ()
      else .error (.issue ⟨e.1, some e.2.oneBased, .unusableCell "is not active"⟩)
    else .error (.issue ⟨e.1, some e.2.oneBased,
      .unusableCell s!"is outside grid of size {shapeText g.dims.shape}"⟩) := by
  obtain ⟨i, j, k, hid, hi, hj, hk, hplace⟩ := Record.ints_of_storage h
  rw [check, hid, hi, hj, hk, hplace, Coord.oneBased_zeroBased]
  simp only [Except.ok_bind]
  by_cases hin : g.dims.contains (Coord.mk i j k).zeroBased = true
  · rw [hin, if_pos rfl, Grid.cellActive_of_contains hin]
    cases g.active.toList.getD (g.dims.linear (Coord.mk i j k).zeroBased).toNat false <;> rfl
  · rw [eq_false_of_ne_true hin]
    rfl

/-- A record passes the check just if its cell is an active cell of the grid. -/
theorem check_eq_ok_iff (h : r.storage = .ok e) : check g r = .ok () ↔ g.Active e.2 := by
  rw [check_eq h, Grid.Active]
  split
  · rename_i hin
    rw [Grid.cellActive_of_contains hin]
    cases g.active.toList.getD (g.dims.linear e.2).toNat false
    · exact ⟨nofun, nofun⟩
    · exact ⟨fun _ ↦ ⟨hin, rfl⟩, fun _ ↦ rfl⟩
  · rename_i hout
    exact ⟨nofun, fun h ↦ absurd h.1 hout⟩

end Builder

namespace StorageCell

/-- The cell of a record stands at the record's place, with the place's number. -/
theorem place_of_ofRecord {c : StorageCell} (h : r.storage = .ok e) (hc : ofRecord g p r = .ok c) :
    (c.aquifer, c.place) = e ∧ g.dims.Numbers c.place c.index := by
  obtain ⟨i, j, k, hid, hi, hj, hk, hplace⟩ := Record.ints_of_storage h
  simp only [ofRecord, hid, hi, hj, hk, ← hplace, Except.ok_bind, Except.bind_eq_ok_iff] at hc
  obtain ⟨n, hn, _, -, _, -, _, -, _, -, _, -, _, -, _, -, _, -, _, -, hc⟩ := hc
  cases Except.ok.inj hc
  rw [Dims.index] at hn
  split at hn
  · rename_i hin
    exact ⟨rfl, hin, (Except.ok.inj hn).symm⟩
  · exact nomatch hn

/-- An active cell of the grid has all its parameters. -/
theorem exists_ofRecord (hr : r.Conforms .aqunum) (hp : p.Fits g)
    (hporo : r.defaulted "PORO" = .ok true → p.hasReal "PORO" = true) (h : r.storage = .ok e)
    (hc : g.Active e.2) : ∃ c, ofRecord g p r = .ok c := by
  obtain ⟨i, j, k, hid, hi, hj, hk, hplace⟩ := Record.ints_of_storage h
  rw [hplace] at hc
  obtain ⟨active, hactive, hlt⟩ := Grid.exists_activeIndex hc.1 hc.2
  obtain ⟨porosity, hporosity⟩ := hr.exists_givenOr "PORO" rfl
    (fun h ↦ hr.exists_si "PORO" rfl rfl (Or.inr h)) fun h ↦ hp.exists_real "PORO" (hporo h) hlt
  obtain ⟨depth, hdepth⟩ := hr.exists_givenOr "DEPTH" rfl
    (fun h ↦ hr.exists_si "DEPTH" rfl rfl (Or.inr h)) fun _ ↦ Grid.exists_depth hc.1
  obtain ⟨pressure, hpressure⟩ := hr.exists_givenOr_none "INITIAL_PRESSURE" rfl rfl
  obtain ⟨pvt, hpvt⟩ := hr.exists_givenOr "PVT_TABLE_NUM" rfl
    (fun h ↦ hr.exists_int "PVT_TABLE_NUM" rfl rfl (Or.inr h))
    fun _ ↦ hp.exists_table "PVTNUM" (by decide) hlt
  obtain ⟨sat, hsat⟩ := hr.exists_givenOr "SAT_TABLE_NUM" rfl
    (fun h ↦ hr.exists_int "SAT_TABLE_NUM" rfl rfl (Or.inr h))
    fun _ ↦ hp.exists_table "SATNUM" (by decide) hlt
  obtain ⟨area, harea⟩ := hr.exists_si "CROSS_SECTION" rfl rfl (Or.inl rfl)
  obtain ⟨length, hlength⟩ := hr.exists_si "LENGTH" rfl rfl (Or.inl rfl)
  obtain ⟨permeability, hpermeability⟩ := hr.exists_si "PERM" rfl rfl (Or.inl rfl)
  exact ⟨_, by
    simp only [ofRecord, hi, hj, hk, Dims.index_of_contains hc.1, hactive, hporosity, hdepth,
      hpressure, hpvt, hsat, hid, harea, hlength, hpermeability, Except.ok_bind]
    rfl⟩

end StorageCell

end Aquifer
