import Aquifer.Numerical.Effect
import Aquifer.Proofs.Numerical.Parts

namespace Aquifer

namespace StorageCell

variable {g : Grid} {c e : StorageCell} {cs : List StorageCell}

def slot (g : Grid) (c : StorageCell) : Nat := g.rank c.index.toNat

theorem Stands.marked (h : c.Stands g) : g.active.toList.getD c.index.toNat false = true := by
  have hactive := h.active.2
  rw [Grid.cellActive_of_contains h.active.1] at hactive
  rw [h.numbers.2]
  exact Except.ok.inj hactive

theorem Stands.activeIndex (h : c.Stands g) : g.activeIndex c.index = .ok (c.slot g) := by
  have hmarked := h.marked
  rw [slot, h.numbers.2] at *
  exact Grid.activeIndex_linear h.active.1 hmarked

theorem Stands.slot_lt (h : c.Stands g) : c.slot g < g.activeCount := Grid.count_take_lt h.marked

theorem slot_eq_iff (hc : c.Stands g) (he : e.Stands g) :
    c.slot g = e.slot g ↔ c.index = e.index := by
  constructor
  · intro h
    have hrank := Grid.rank_inj hc.marked he.marked h
    have hpos := Dims.linear_nonneg hc.active.1
    have hpos' := Dims.linear_nonneg he.active.1
    rw [← hc.numbers.2] at hpos
    rw [← he.numbers.2] at hpos'
    omega
  · intro h
    rw [slot, slot, h]

theorem nodup_slots (hcs : ∀ c ∈ cs, c.Stands g) (h : (cs.map (·.index)).Nodup) :
    (cs.map (·.slot g)).Nodup :=
  (nodup_map_iff fun c hc e he ↦ slot_eq_iff (hcs c hc) (hcs e he)).mpr h

end StorageCell

namespace CellArrays

variable {g : Grid} {a b : CellArrays} {c e : StorageCell} {cs es : List StorageCell} {n m : Nat}

@[mk_iff]
structure Has (a : CellArrays) (n : Nat) : Prop where
  poreVolume : n < a.poreVolume.length
  satTable : n < a.satTable.length
  pvtTable : n < a.pvtTable.length
  depth : n < a.depth.length

structure Fits (g : Grid) (a : CellArrays) : Prop where
  poreVolume : a.poreVolume.length = g.activeCount
  satTable : a.satTable.length = g.activeCount
  pvtTable : a.pvtTable.length = g.activeCount
  depth : a.depth.length = g.activeCount

structure Entry where
  poreVolume : Option Double
  satTable : Option Int
  pvtTable : Option Int
  depth : Option Double

def entry (a : CellArrays) (n : Nat) : Entry :=
  ⟨a.poreVolume[n]?, a.satTable[n]?, a.pvtTable[n]?, a.depth[n]?⟩

def ofCell (c : StorageCell) : Entry :=
  ⟨some c.poreVolume, some c.satTable, some c.pvtTable, some c.depth⟩

def put (g : Grid) (a : CellArrays) (c : StorageCell) : CellArrays where
  poreVolume := a.poreVolume.set (c.slot g) c.poreVolume
  satTable := a.satTable.set (c.slot g) c.satTable
  pvtTable := a.pvtTable.set (c.slot g) c.pvtTable
  depth := a.depth.set (c.slot g) c.depth

theorem Fits.has (h : a.Fits g) (hn : n < g.activeCount) : a.Has n :=
  ⟨h.poreVolume ▸ hn, h.satTable ▸ hn, h.pvtTable ▸ hn, h.depth ▸ hn⟩

theorem fits_put (h : a.Fits g) : (put g a c).Fits g := by
  constructor <;> simp only [put, List.length_set, h.poreVolume, h.satTable, h.pvtTable, h.depth]

theorem has_put : (put g a c).Has n ↔ a.Has n := by
  simp only [has_iff, put, List.length_set]

theorem entry_put (h : a.Has (c.slot g)) : (put g a c).entry (c.slot g) = ofCell c := by
  simp only [entry, put, ofCell, List.getElem?_set_self, h.poreVolume, h.satTable, h.pvtTable,
    h.depth]

theorem entry_put_of_ne (h : c.slot g ≠ n) : (put g a c).entry n = a.entry n := by
  simp only [entry, put, List.getElem?_set_ne h]

theorem put_comm (h : c.slot g ≠ e.slot g) : put g (put g a c) e = put g (put g a e) c := by
  simp only [put, List.set_comm _ _ h]

theorem write_eq_ok_iff {α : Type} {get : CellArrays → List α}
    {put : CellArrays → List α → CellArrays} {x : α} {u : Unit} :
    write get put n x a = .ok u b ↔ n < (get a).length ∧ b = put a ((get a).set n x) := by
  rw [write, EStateM.bind_of_ok (show EStateM.get a = .ok a a from rfl)]
  split
  · rename_i h
    constructor
    · intro hok
      cases hok
      exact ⟨h, rfl⟩
    · rintro ⟨-, rfl⟩
      rfl
  · rename_i h
    exact ⟨nofun, fun hok ↦ absurd hok.1 h⟩

/-- Writing a cell succeeds just if all arrays have its entry. -/
theorem writeCell_eq_ok_iff (hc : c.Stands g) :
    writeCell g c a = .ok () b ↔ a.Has (c.slot g) ∧ b = put g a c := by
  rw [writeCell, hc.activeIndex]
  simp only [pure_bind, EStateM.bind_eq_ok_iff, write_eq_ok_iff]
  constructor
  · rintro ⟨_, _, ⟨hpore, rfl⟩, _, _, ⟨hsat, rfl⟩, _, _, ⟨hpvt, rfl⟩, hdepth, rfl⟩
    exact ⟨⟨hpore, hsat, hpvt, hdepth⟩, rfl⟩
  · rintro ⟨⟨hpore, hsat, hpvt, hdepth⟩, rfl⟩
    exact ⟨(), _, ⟨hpore, rfl⟩, (), _, ⟨hsat, rfl⟩, (), _, ⟨hpvt, rfl⟩, hdepth, rfl⟩

theorem writeCells_eq_ok_iff (hcs : ∀ c ∈ cs, c.Stands g) :
    writeCells g cs a = .ok () b ↔ (∀ c ∈ cs, a.Has (c.slot g)) ∧ b = cs.foldl (put g) a := by
  induction cs generalizing a with
  | nil =>
    constructor
    · intro h
      cases h
      exact ⟨List.forall_mem_nil _, rfl⟩
    · rintro ⟨-, rfl⟩
      rfl
  | cons c cs ih =>
    rw [List.forall_mem_cons] at hcs
    rw [writeCells, EStateM.bind_eq_ok_iff, List.forall_mem_cons, List.foldl_cons]
    constructor
    · rintro ⟨⟨⟩, a', hc, hrest⟩
      obtain ⟨hhas, rfl⟩ := (writeCell_eq_ok_iff hcs.1).mp hc
      obtain ⟨hall, hb⟩ := (ih hcs.2).mp hrest
      exact ⟨⟨hhas, fun e he ↦ has_put.mp (hall e he)⟩, hb⟩
    · rintro ⟨⟨hhas, hall⟩, hb⟩
      exact ⟨(), _, (writeCell_eq_ok_iff hcs.1).mpr ⟨hhas, rfl⟩,
        (ih hcs.2).mpr ⟨fun e he ↦ has_put.mpr (hall e he), hb⟩⟩

/-- Cells with different active numbers can be written in any order. -/
theorem writeCells_perm (h : cs.Perm es) (hcs : ∀ c ∈ cs, c.Stands g)
    (hdistinct : (cs.map (·.index)).Nodup) :
    writeCells g cs a = .ok () b ↔ writeCells g es a = .ok () b := by
  have hes : ∀ e ∈ es, e.Stands g := fun e he ↦ hcs e (h.mem_iff.mpr he)
  have hcomm : ∀ c ∈ cs, ∀ e ∈ cs, ∀ a, put g (put g a c) e = put g (put g a e) c := by
    intro c hc e he a
    -- A cell commutes with itself; different cells have different slots.
    by_cases heq : c = e
    · rw [heq]
    · refine put_comm fun hslot ↦ heq ?_
      exact List.inj_on_of_nodup_map (StorageCell.nodup_slots hcs hdistinct) hc he hslot
  rw [writeCells_eq_ok_iff hcs, writeCells_eq_ok_iff hes, h.foldl_eq' hcomm]
  simp only [h.mem_iff]

theorem fits_foldl_put (h : a.Fits g) : (cs.foldl (put g) a).Fits g := by
  induction cs generalizing a with
  | nil => exact h
  | cons c cs ih => exact ih (fits_put h)

theorem entry_foldl_put_of_not_mem (h : n ∉ cs.map (·.slot g)) :
    (cs.foldl (put g) a).entry n = a.entry n := by
  induction cs generalizing a with
  | nil => rfl
  | cons c cs ih =>
    simp only [List.map_cons, List.mem_cons, not_or] at h
    rw [List.foldl_cons, ih h.2, entry_put_of_ne (Ne.symm h.1)]

theorem entry_foldl_put (h : ∀ c ∈ cs, a.Has (c.slot g)) (hdistinct : (cs.map (·.slot g)).Nodup) :
    ∀ c ∈ cs, (cs.foldl (put g) a).entry (c.slot g) = ofCell c := by
  induction cs generalizing a with
  | nil => exact List.forall_mem_nil _
  | cons c cs ih =>
    rw [List.forall_mem_cons] at h
    rw [List.map_cons, List.nodup_cons] at hdistinct
    -- No later cell has the slot of the first one, so its entry stays.
    have hfirst := entry_foldl_put_of_not_mem (a := put g a c) hdistinct.1
    have hrest := ih (a := put g a c) (fun e he ↦ has_put.mpr (h.2 e he)) hdistinct.2
    rw [List.forall_mem_cons, List.foldl_cons, hfirst]
    exact ⟨entry_put h.1, hrest⟩

/-- The cells of a registry that a deck makes can be written into arrays over the active cells.
Afterwards the entry of each cell holds what the cell has, and all other entries are as before. -/
theorem writeCells_overwrites {d : Deck} {p : Properties} {override : Option ActiveMap}
    {r : Registry} (hr : (Registry.ofDeck d g p override).result = .ok r) (ha : a.Fits g) :
    ∃ b, writeCells g r.cells a = .ok () b ∧ b.Fits g ∧
      (∀ c ∈ r.cells, ∃ n, g.activeIndex c.index = .ok n ∧ n < g.activeCount ∧
        b.entry n = ofCell c) ∧
      (∀ n, (∀ c ∈ r.cells, g.activeIndex c.index ≠ .ok n) → b.entry n = a.entry n) ∧
      (r.cells.map fun c ↦ g.activeIndex c.index).Nodup := by
  obtain ⟨hdistinct, hstands⟩ := Registry.stands_of_ofDeck hr
  have hslots := StorageCell.nodup_slots hstands hdistinct
  have hhas : ∀ c ∈ r.cells, a.Has (c.slot g) := fun c hc ↦ ha.has (hstands c hc).slot_lt
  refine ⟨_, (writeCells_eq_ok_iff hstands).mpr ⟨hhas, rfl⟩, fits_foldl_put ha, ?written, ?kept,
    ?apart⟩
  case written =>
    intro c hc
    exact ⟨_, (hstands c hc).activeIndex, (hstands c hc).slot_lt,
      entry_foldl_put hhas hslots c hc⟩
  case kept =>
    intro n hn
    refine entry_foldl_put_of_not_mem fun hmem ↦ ?_
    obtain ⟨c, hc, rfl⟩ := List.mem_map.mp hmem
    exact hn c hc (hstands c hc).activeIndex
  case apart =>
    refine (nodup_map_iff fun c hc e he ↦ ?_).mpr hslots
    rw [(hstands c hc).activeIndex, (hstands e he).activeIndex, Except.ok.injEq]

/-- Two aquifers write the entries of their cells and leave those between them as they were. The
last cell of the block has entry 22, for a cell before it is inactive. -/
theorem writeCells_overwrites_twin :
    ∃ r b, (Registry.ofDeck Registry.twinDeck .block Registry.blockProperties none).result = .ok r ∧
      writeCells .block r.cells (zeros 23) = .ok () b ∧
      (b.entry 0).satTable = some 1 ∧ (b.entry 1).satTable = some 1 ∧
      (b.entry 22).satTable = some 1 ∧ b.entry 2 = (zeros 23).entry 2 := by
  obtain ⟨r, x, y, z, hr, hcells, ⟨hx, hx'⟩, ⟨hy, hy'⟩, ⟨hz, hz'⟩⟩ : ∃ r x y z,
      (Registry.ofDeck Registry.twinDeck .block Registry.blockProperties none).result = .ok r ∧
      r.cells = [x, y, z] ∧ (x.index = 0 ∧ x.satTable = 1) ∧ (y.index = 1 ∧ y.satTable = 1) ∧
      z.index = 23 ∧ z.satTable = 1 :=
    ⟨_, _, _, _, rfl, rfl, ⟨rfl, rfl⟩, ⟨rfl, rfl⟩, rfl, rfl⟩
  obtain ⟨b, hb, -, hwritten, hkept, -⟩ :=
    writeCells_overwrites (a := zeros 23) hr ⟨rfl, rfl, rfl, rfl⟩
  have htable {c : StorageCell} {g n : Nat} (hc : c ∈ r.cells) (hg : c.index = g)
      (ht : c.satTable = 1) (hn : Grid.block.activeIndex g = .ok n) :
      (b.entry n).satTable = some 1 := by
    obtain ⟨m, hm, -, hentry⟩ := hwritten c hc
    rw [hg] at hm
    cases hm.symm.trans hn
    rw [hentry, ← ht]
    rfl
  refine ⟨r, b, hr, hb, htable (by simp [hcells]) hx hx' rfl, htable (by simp [hcells]) hy hy' rfl,
    htable (by simp [hcells]) hz hz' rfl, hkept 2 ?_⟩
  rw [hcells, List.forall_mem_cons, List.forall_mem_cons, List.forall_mem_singleton, hx, hy, hz]
  exact ⟨nofun, nofun, nofun⟩

end CellArrays

end Aquifer
