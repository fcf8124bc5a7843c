import Aquifer.Grid.Box
import Aquifer.Grid.Geometry
import Aquifer.Proofs.Outcome
import Mathlib.Data.List.Nodup

namespace Aquifer

/-- Entries told apart alike by two functions have different values of both or of none. -/
theorem nodup_map_iff {α β γ : Type} {f : α → β} {h : α → γ} {xs : List α}
    (hxs : ∀ x ∈ xs, ∀ y ∈ xs, f x = f y ↔ h x = h y) : (xs.map f).Nodup ↔ (xs.map h).Nodup := by
  rw [List.Nodup, List.Nodup, List.pairwise_map, List.pairwise_map]
  exact List.Pairwise.iff_of_mem fun hx hy ↦ not_congr (hxs _ hx _ hy)

namespace Dims

variable {d : Dims} {c e : Coord}

theorem add_mul_lt {a b m n : Int} (ha : a < m) (hb : b < n) (hm : 0 < m) :
    a + m * b < m * n := by
  have h : m * (b + 1) ≤ m * n := Int.mul_le_mul_of_nonneg_left hb (Int.le_of_lt hm)
  rw [Int.mul_add, Int.mul_one] at h
  omega

theorem linear_nonneg (h : d.contains c = true) : 0 ≤ d.linear c := by
  rw [contains_iff] at h
  obtain ⟨⟨hi, -⟩, ⟨hj, -⟩, hk, -⟩ := h
  rw [linear_eq]
  have hlayer : 0 ≤ (d.ny : Int) * c.k := Int.mul_nonneg (Int.natCast_nonneg _) hk
  have hrow : 0 ≤ (d.nx : Int) * (c.j + d.ny * c.k) :=
    Int.mul_nonneg (Int.natCast_nonneg _) (Int.add_nonneg hj hlayer)
  exact Int.add_nonneg hi hrow

theorem linear_lt (h : d.contains c = true) : d.linear c < d.size := by
  rw [contains_iff] at h
  obtain ⟨⟨-, hi⟩, ⟨-, hj⟩, -, hk⟩ := h
  rw [linear_eq, size, Nat.mul_assoc]
  push_cast
  exact add_mul_lt hi (add_mul_lt hj hk (Int.natCast_pos.mpr d.ny_pos))
    (Int.natCast_pos.mpr d.nx_pos)

theorem toNat_linear_lt (h : d.contains c = true) : (d.linear c).toNat < d.size := by
  have hpos := linear_nonneg h
  have hlt := linear_lt h
  omega

theorem add_mul_inj {a b a' b' m : Int} (ha : 0 ≤ a ∧ a < m) (ha' : 0 ≤ a' ∧ a' < m)
    (h : a + m * b = a' + m * b') : a = a' ∧ b = b' := by
  have hmod := congrArg (· % m) h
  simp only [Int.add_mul_emod_self_left, Int.emod_eq_of_lt ha.1 ha.2,
    Int.emod_eq_of_lt ha'.1 ha'.2] at hmod
  subst hmod
  have hm : m ≠ 0 := by omega
  exact ⟨rfl, Int.eq_of_mul_eq_mul_left hm (Int.add_left_cancel h)⟩

theorem linear_inj (hc : d.contains c = true) (he : d.contains e = true)
    (h : d.linear c = d.linear e) : c = e := by
  rw [contains_iff] at hc he
  rw [linear_eq, linear_eq] at h
  obtain ⟨hi, h⟩ := add_mul_inj hc.1 he.1 h
  obtain ⟨hj, hk⟩ := add_mul_inj hc.2.1 he.2.1 h
  obtain ⟨i, j, k⟩ := c
  obtain ⟨i', j', k'⟩ := e
  cases hi
  cases hj
  cases hk
  rfl

def Numbers (d : Dims) (c : Coord) (n : Int) : Prop := d.contains c = true ∧ n = d.linear c

theorem Numbers.eq_iff {n m : Int} (hc : d.Numbers c n) (he : d.Numbers e m) : n = m ↔ c = e := by
  rw [hc.2, he.2]
  exact ⟨linear_inj hc.1 he.1, congrArg d.linear⟩

theorem index_of_contains (h : d.contains c = true) : d.index c = .ok (d.linear c) := if_pos h

theorem exists_coord_linear (h : d.contains c = true) : ∃ e, d.coord (d.linear c) = .ok e :=
  ⟨_, if_pos ⟨linear_nonneg h, linear_lt h⟩⟩

end Dims

namespace Grid

variable {g : Grid} {c : Coord} {m : ActiveMap}

def marks (g : Grid) (m : ActiveMap) (c : Coord) : Bool :=
  g.dims.contains c && m.getD (g.dims.linear c).toNat false

/-- Whether a place is a cell that is active and, unless internal cells are admitted, has no active
neighbour across the face. -/
def connects (g : Grid) (m : ActiveMap) (internal : Bool) (f : Face) (c : Coord) : Bool :=
  g.marks m c && (internal || !g.marks m (c + f.offset))

theorem contains_of_marks (h : g.marks m c = true) : g.dims.contains c = true := by
  rw [marks, Bool.and_eq_true] at h
  exact h.1

theorem contains_of_connects {internal : Bool} {f : Face} (h : g.connects m internal f c = true) :
    g.dims.contains c = true := by
  rw [connects, Bool.and_eq_true] at h
  exact contains_of_marks h.1

theorem activeIn_eq (hm : m.size = g.dims.size) (c : Coord) :
    g.activeIn m c = .ok (g.marks m c) := by
  rw [activeIn, marks]
  by_cases h : g.dims.contains c = true
  · have hlt : (g.dims.linear c).toNat < m.size := hm ▸ Dims.toNat_linear_lt h
    rw [if_pos h, h, Array.getElem?_eq_getElem hlt, Array.getD_eq_getD_getElem?,
      Array.getElem?_eq_getElem hlt]
    rfl
  · rw [if_neg h, eq_false_of_ne_true h]
    rfl

theorem connectable_eq (hm : m.size = g.dims.size) (internal : Bool) (f : Face) (c : Coord) :
    g.connectable m internal f c = .ok (g.connects m internal f c) := by
  rw [connectable, connects, neighbourActive, activeIn_eq hm, activeIn_eq hm]
  cases g.marks m c <;> cases internal <;> rfl

theorem size_mapOr {override : Option ActiveMap} (h : ∀ m ∈ override, m.size = g.dims.size) :
    (g.mapOr override).size = g.dims.size := by
  cases override with
  | none => exact g.active.size_toArray
  | some m => exact h m rfl

theorem place?_of_mem {n : Nat} {i : Int} (h : 0 ≤ i ∧ i < n) : place? n i = some i.toNat :=
  if_pos h

theorem count_take_lt {bs : List Bool} {n : Nat} (h : bs.getD n false = true) :
    (bs.take n).count true < bs.count true := by
  induction bs generalizing n with
  | nil => exact nomatch h
  | cons b bs ih =>
    cases n with
    | zero =>
      cases h
      simp
    | succ n =>
      have hlt := ih (n := n) h
      simp only [List.take_succ_cons, List.count_cons]
      omega

theorem rank_lt_rank {n k : Nat} (h : g.active.toList.getD n false = true) (hlt : n < k) :
    g.rank n < g.rank k := by
  have htake : (g.active.toList.take k).getD n false = true := by
    rwa [List.getD_eq_getElem?_getD, List.getElem?_take_of_lt hlt, ← List.getD_eq_getElem?_getD]
  have hcount := count_take_lt htake
  rwa [List.take_take, Nat.min_eq_left (Nat.le_of_lt hlt)] at hcount

/-- Different active cells have different ranks. -/
theorem rank_inj {n k : Nat} (hn : g.active.toList.getD n false = true)
    (hk : g.active.toList.getD k false = true) (h : g.rank n = g.rank k) : n = k := by
  rcases Nat.lt_trichotomy n k with hlt | heq | hlt
  · have := rank_lt_rank hn hlt
    omega
  · exact heq
  · have := rank_lt_rank hk hlt
    omega

theorem cellActive_of_contains (h : g.dims.contains c = true) :
    g.cellActive c = .ok (g.active.toList.getD (g.dims.linear c).toNat false) := by
  obtain ⟨hi, hj, hk⟩ := Dims.contains_iff.mp h
  rw [cellActive, place?_of_mem hi, place?_of_mem hj, place?_of_mem hk]
  simp only [Int.toNat_of_nonneg hi.1, Int.toNat_of_nonneg hj.1, Int.toNat_of_nonneg hk.1]

theorem activeIndex_linear (h : g.dims.contains c = true)
    (ha : g.active.toList.getD (g.dims.linear c).toNat false = true) :
    g.activeIndex (g.dims.linear c) = .ok (g.rank (g.dims.linear c).toNat) := by
  obtain ⟨e, he⟩ := Dims.exists_coord_linear h
  rw [activeIndex, he, Except.ok_bind, if_pos ha]
  rfl

theorem exists_activeIndex (h : g.dims.contains c = true) (ha : g.cellActive c = .ok true) :
    ∃ n, g.activeIndex (g.dims.linear c) = .ok n ∧ n < g.activeCount := by
  rw [cellActive_of_contains h] at ha
  have hactive := Except.ok.inj ha
  exact ⟨_, activeIndex_linear h hactive, count_take_lt hactive⟩

theorem exists_depth (h : g.dims.contains c = true) : ∃ x, g.depth (g.dims.linear c) = .ok x := by
  obtain ⟨e, he⟩ := Dims.exists_coord_linear h
  rw [depth, he]
  exact ⟨_, rfl⟩

def area (g : Grid) (n : Int) (f : Face) : Double :=
  let (dx, dy, dz) := g.extents n
  match f.axis with
  | .x => dy * dz
  | .y => dx * dz
  | .z => dx * dy

theorem faceArea_of_contains (h : g.dims.contains c = true) (f : Face) :
    g.faceArea (g.dims.linear c) f = .ok (g.area (g.dims.linear c) f) := by
  obtain ⟨e, he⟩ := Dims.exists_coord_linear h
  rw [faceArea, he]
  rfl

def pair : Grid where
  dims := ⟨2, 1, 1, by decide, by decide, by decide⟩
  dx := Vector.replicate _ ⟨1⟩
  dy := Vector.replicate _ ⟨1⟩
  dz := Vector.replicate _ ⟨1⟩
  tops := Vector.replicate _ ⟨1⟩
  active := Vector.replicate _ true

/-- A block of four by three by two cells, of which the second one of the upper layer's first row is
inactive. -/
def block : Grid where
  dims := ⟨4, 3, 2, by decide, by decide, by decide⟩
  dx := Vector.replicate _ 2.0
  dy := Vector.replicate _ 3.0
  dz := Vector.replicate _ 5.0
  tops := Vector.replicate _ 7.0
  active := (Vector.replicate _ true).set 13 false

end Grid

end Aquifer
