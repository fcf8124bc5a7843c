import Aquifer.Numerical.Effect
import Aquifer.Proofs.Grid.Cells
import Mathlib.Data.List.Sort

namespace Aquifer

def Axis.step (a : Axis) : Coord := Face.offset ⟨a, true⟩

def Coord.along (c : Coord) : Axis → Int
  | .x => c.i
  | .y => c.j
  | .z => c.k

def Dims.extent (d : Dims) : Axis → Nat
  | .x => d.nx
  | .y => d.ny
  | .z => d.nz

theorem Coord.ext_iff {c e : Coord} : c = e ↔ c.i = e.i ∧ c.j = e.j ∧ c.k = e.k := by
  obtain ⟨i, j, k⟩ := c
  obtain ⟨i', j', k'⟩ := e
  simp

theorem Coord.add_def (c e : Coord) : c + e = ⟨c.i + e.i, c.j + e.j, c.k + e.k⟩ := rfl

theorem Coord.add_lower_offset_eq_iff {c e : Coord} {a : Axis} :
    c + Face.offset ⟨a, false⟩ = e ↔ c = e + a.step := by
  rw [Coord.ext_iff, Coord.ext_iff]
  cases a <;> simp only [Coord.add_def, Axis.step, Face.offset] <;> simp <;> omega

theorem Dims.along_lt_extent {d : Dims} {c : Coord} (h : d.contains c = true) (a : Axis) :
    c.along a < d.extent a := by
  rw [contains_iff] at h
  cases a <;> simp only [Coord.along, extent] <;> omega

theorem Coord.along_add_step (c : Coord) (a : Axis) : (c + a.step).along a = c.along a + 1 := by
  cases a <;> rfl

theorem pairwise_lt_eraseDups {xs : List Int} (h : xs.Pairwise (· ≤ ·)) :
    xs.eraseDups.Pairwise (· < ·) := by
  match xs, h with
  | [], _ => exact .nil
  | x :: xs, h =>
    rw [List.pairwise_cons] at h
    rw [List.eraseDups_cons, List.pairwise_cons]
    refine ⟨fun y hy ↦ ?_, pairwise_lt_eraseDups (h.2.sublist List.filter_sublist)⟩
    rw [List.mem_eraseDups, List.mem_filter] at hy
    have hle := h.1 y hy.1
    have hne : y ≠ x := by simpa using hy.2
    omega
termination_by xs.length
decreasing_by exact Nat.lt_succ_of_le (List.length_filter_le _ _)

namespace Mark

variable {g : Grid} {m : ActiveMap} {c : StorageCell} {cs : List StorageCell} {marks : List Mark}
  {a : Axis} {n : Int}

theorem mem_along : n ∈ along a marks ↔ (a, n) ∈ marks := by
  simp only [along, List.mem_eraseDups, List.mem_mergeSort, List.mem_map, List.mem_filter,
    beq_iff_eq]
  constructor
  · rintro ⟨⟨b, n⟩, ⟨hmem, rfl⟩, rfl⟩
    exact hmem
  · intro h
    exact ⟨(a, n), ⟨h, rfl⟩, rfl⟩

theorem pairwise_along (a : Axis) (marks : List Mark) : (along a marks).Pairwise (· < ·) := by
  refine pairwise_lt_eraseDups ?_
  let below (x y : Int) : Bool := decide (x ≤ y)
  have htrans : ∀ x y z, below x y = true → below y z = true → below x z = true := by
    intro x y z hxy hyz
    exact decide_eq_true (Int.le_trans (of_decide_eq_true hxy) (of_decide_eq_true hyz))
  have htotal : ∀ x y, (below x y || below y x) = true := by
    intro x y
    rw [Bool.or_eq_true, decide_eq_true_eq, decide_eq_true_eq]
    exact Int.le_total x y
  have hsorted := List.pairwise_mergeSort htrans htotal ((marks.filter (·.1 == a)).map (·.2))
  exact hsorted.imp of_decide_eq_true

/-- Marks with the same entries, in whatever order and number, are the same along every axis. -/
theorem along_congr {marks' : List Mark} (h : ∀ x, x ∈ marks' ↔ x ∈ marks) (a : Axis) :
    along a marks' = along a marks := by
  refine (pairwise_along a marks').eq_of_mem_iff (pairwise_along a marks) fun n ↦ ?_
  rw [mem_along, mem_along, h]

def lower (c : Coord) (f : Face) : Coord := if f.upper then c else c + f.offset

/-- The transmissibilities across the faces of a place whose other side is active. -/
def ofPlace (g : Grid) (m : ActiveMap) (c : Coord) : List Mark :=
  (Face.all.filter fun f ↦ g.marks m (c + f.offset)).map fun f ↦ (f.axis, g.dims.linear (lower c f))

theorem ofFace_eq (hm : m.size = g.dims.size) (hc : g.dims.Numbers c.place c.index) (f : Face) :
    ofFace g m c f = .ok (if g.marks m (c.place + f.offset) then
      [(f.axis, g.dims.linear (lower c.place f))] else []) := by
  rw [ofFace, Grid.neighbourActive, Grid.activeIn_eq hm, Except.ok_bind]
  cases hactive : g.marks m (c.place + f.offset) with
  | false => rfl
  | true =>
    obtain ⟨axis, upper⟩ := f
    cases upper with
    | true =>
      rw [hc.2]
      rfl
    | false =>
      rw [Dims.index_of_contains (Grid.contains_of_marks hactive)]
      rfl

theorem ofCells_eq {override : Option ActiveMap} (ho : ∀ m ∈ override, m.size = g.dims.size)
    (hcs : ∀ c ∈ cs, g.dims.Numbers c.place c.index) : ofCells g override cs =
      .ok (cs.flatMap fun c ↦ ofPlace g (g.mapOr override) c.place) := by
  have hcell : ∀ c ∈ cs, (do return (← Face.all.mapM (ofFace g (g.mapOr override) c)).flatten) =
      (.ok (ofPlace g (g.mapOr override) c.place) : Except Fault (List Mark)) := by
    intro c hc
    rw [Except.mapM_eq_ok_map fun f _ ↦ ofFace_eq (Grid.size_mapOr ho) (hcs c hc) f]
    refine congrArg Except.ok ?_
    rw [ofPlace]
    induction Face.all with
    | nil => rfl
    | cons f fs ih =>
      rw [List.map_cons, List.flatten_cons, ih, List.filter_cons]
      split <;> rfl
  rw [ofCells, Except.mapM_eq_ok_map hcell, List.flatMap]
  rfl

/-- A cell marks the face above it, and the face above the cell beneath it. -/
theorem mem_ofPlace {c : Coord} : (a, n) ∈ ofPlace g m c ↔
    (g.marks m (c + a.step) = true ∧ n = g.dims.linear c) ∨
      ∃ l, c = l + a.step ∧ g.marks m l = true ∧ n = g.dims.linear l := by
  simp only [ofPlace, List.mem_map, List.mem_filter, Face.mem_all, true_and, Prod.mk.injEq]
  constructor
  · rintro ⟨⟨a, upper⟩, hactive, rfl, rfl⟩
    cases upper with
    | true => exact Or.inl ⟨hactive, rfl⟩
    | false => exact Or.inr ⟨_, Coord.add_lower_offset_eq_iff.mp rfl, hactive, rfl⟩
  · rintro (⟨hactive, rfl⟩ | ⟨l, hl, hactive, rfl⟩)
    · exact ⟨⟨a, true⟩, hactive, rfl, rfl⟩
    · have hlower := Coord.add_lower_offset_eq_iff.mpr hl
      exact ⟨⟨a, false⟩, hlower ▸ hactive, rfl, by rw [lower, if_neg Bool.false_ne_true, hlower]⟩

/-- Of a cell of the grid and its upper neighbour along an axis, one is at one of the places and the
other one is active. -/
structure Replaced (g : Grid) (m : ActiveMap) (places : List Coord) (a : Axis) (l : Coord) :
    Prop where
  lower : g.dims.contains l = true
  upper : g.dims.contains (l + a.step) = true
  touches : l ∈ places ∧ g.marks m (l + a.step) = true ∨ l + a.step ∈ places ∧ g.marks m l = true

theorem mem_flatMap_ofPlace (hcs : ∀ c ∈ cs, g.dims.Numbers c.place c.index) :
    (a, n) ∈ cs.flatMap (fun c ↦ ofPlace g m c.place) ↔
      ∃ l, Replaced g m (cs.map (·.place)) a l ∧ n = g.dims.linear l := by
  simp only [List.mem_flatMap, mem_ofPlace]
  constructor
  · rintro ⟨c, hc, ⟨hactive, rfl⟩ | ⟨l, hl, hactive, rfl⟩⟩
    · exact ⟨c.place, ⟨(hcs c hc).1, Grid.contains_of_marks hactive,
        Or.inl ⟨List.mem_map_of_mem hc, hactive⟩⟩, rfl⟩
    · exact ⟨l, ⟨Grid.contains_of_marks hactive, hl ▸ (hcs c hc).1,
        Or.inr ⟨hl ▸ List.mem_map_of_mem hc, hactive⟩⟩, rfl⟩
  · rintro ⟨l, ⟨-, -, ⟨hl, hactive⟩ | ⟨hl, hactive⟩⟩, rfl⟩
    · obtain ⟨c, hc, rfl⟩ := List.mem_map.mp hl
      exact ⟨c, hc, Or.inl ⟨hactive, rfl⟩⟩
    · obtain ⟨c, hc, hplace⟩ := List.mem_map.mp hl
      exact ⟨c, hc, Or.inr ⟨l, hplace, hactive, rfl⟩⟩

theorem Replaced.along_lt {places : List Coord} {l : Coord} (h : Replaced g m places a l) :
    l.along a + 1 < g.dims.extent a := by
  have hlt := Dims.along_lt_extent h.upper a
  rwa [Coord.along_add_step] at hlt

/-- Aquifers replace the transmissibility between two neighbouring cells of the grid just if one of
them is an aquifer cell and the other one is active. The marks depend on the set of cells alone, and
no cell at the upper end of an axis is marked along it. -/
theorem ofCells_replaces {override : Option ActiveMap} (ho : ∀ m ∈ override, m.size = g.dims.size)
    {r : Registry} (hr : ∀ c ∈ r.cells, g.dims.Numbers c.place c.index) :
    ∃ marks, ofCells g override r.cells = .ok marks ∧
      (∀ a n, n ∈ along a marks ↔
        ∃ l, Replaced g (g.mapOr override) (r.cells.map (·.place)) a l ∧ n = g.dims.linear l) ∧
      (∀ cs, (∀ c, c ∈ cs ↔ c ∈ r.cells) → ∃ marks', ofCells g override cs = .ok marks' ∧
        ∀ a, along a marks' = along a marks) ∧
      ∀ a l, g.dims.contains l = true → l.along a + 1 = g.dims.extent a →
        g.dims.linear l ∉ along a marks := by
  refine ⟨_, ofCells_eq ho hr, fun a n ↦ mem_along.trans (mem_flatMap_ofPlace hr), ?order, ?last⟩
  case order =>
    intro cs hcs
    refine ⟨_, ofCells_eq ho fun c hc ↦ hr c ((hcs c).mp hc), along_congr fun x ↦ ?_⟩
    simp only [List.mem_flatMap, hcs]
  case last =>
    intro a l hl hlast h
    obtain ⟨l', hreplaced, hlinear⟩ := (mem_flatMap_ofPlace hr).mp (mem_along.mp h)
    obtain rfl := Dims.linear_inj hl hreplaced.lower hlinear
    have hlt := hreplaced.along_lt
    omega

def twinRegistry : Registry :=
  ⟨⟨[(3, ⟨3, [⟨3, ⟨1, 0, 0⟩, 1, ⟨1⟩, ⟨1⟩, ⟨1⟩, ⟨1⟩, ⟨1⟩, 1, 1, none⟩], []⟩),
    (4, ⟨4, [⟨4, ⟨1, 0, 1⟩, 13, ⟨1⟩, ⟨1⟩, ⟨1⟩, ⟨1⟩, ⟨1⟩, 1, 1, none⟩], []⟩)], by decide⟩⟩

/-- Cells of different aquifers touch. An aquifer cell need not be active itself, and the face above
the upper layer is none. -/
theorem ofCells_replaces_twin :
    ∃ marks, ofCells .block none twinRegistry.cells = .ok marks ∧ 0 ∈ along .x marks ∧
      12 ∈ along .x marks ∧ 1 ∈ along .z marks ∧ 13 ∉ along .z marks := by
  have ho : ∀ m ∈ (none : Option ActiveMap), m.size = Grid.block.dims.size := nofun
  have hr : ∀ c ∈ twinRegistry.cells, Grid.block.dims.Numbers c.place c.index :=
    List.forall_mem_cons.mpr ⟨⟨rfl, rfl⟩, List.forall_mem_singleton.mpr ⟨rfl, rfl⟩⟩
  obtain ⟨marks, hmarks, hmem, -, hlast⟩ := ofCells_replaces ho hr
  have hplaces : twinRegistry.cells.map (·.place) = [⟨1, 0, 0⟩, ⟨1, 0, 1⟩] := rfl
  rw [hplaces] at hmem
  refine ⟨marks, hmarks, (hmem .x 0).mpr ⟨⟨0, 0, 0⟩, ⟨rfl, rfl, Or.inr ⟨?_, rfl⟩⟩, rfl⟩,
    (hmem .x 12).mpr ⟨⟨0, 0, 1⟩, ⟨rfl, rfl, Or.inr ⟨?_, rfl⟩⟩, rfl⟩,
    (hmem .z 1).mpr ⟨⟨1, 0, 0⟩, ⟨rfl, rfl, Or.inr ⟨?_, rfl⟩⟩, rfl⟩, hlast .z ⟨1, 0, 1⟩ rfl rfl⟩
  · decide
  · decide
  · decide

end Mark

end Aquifer
