import Aquifer.Proofs.Grid.Box

namespace Aquifer

/-- A place comes before another one where `i` runs fastest and `k` slowest. -/
def Coord.Before (c e : Coord) : Prop :=
  c.k < e.k ∨ c.k = e.k ∧ (c.j < e.j ∨ c.j = e.j ∧ c.i < e.i)

namespace Dims

variable {d : Dims} {c e : Coord} {n : Int}

theorem add_mul_lt_add_mul_iff {a b a' b' m : Int} (ha : 0 ≤ a ∧ a < m) (ha' : 0 ≤ a' ∧ a' < m) :
    a + m * b < a' + m * b' ↔ b < b' ∨ b = b' ∧ a < a' := by
  have hm : 0 < m := Int.lt_of_le_of_lt ha.1 ha.2
  have hstep {x y : Int} (h : x < y) : m * x + m ≤ m * y := by
    have hmul : m * (x + 1) ≤ m * y := Int.mul_le_mul_of_nonneg_left h (Int.le_of_lt hm)
    rwa [Int.mul_add, Int.mul_one] at hmul
  rcases Int.lt_trichotomy b b' with h | rfl | h
  · have := hstep h
    omega
  · omega
  · have := hstep h
    omega

/-- Numbers of cells grow with their places, `k` counting first and `i` last. -/
theorem linear_lt_linear_iff (hc : d.contains c = true) (he : d.contains e = true) :
    d.linear c < d.linear e ↔ c.Before e := by
  rw [contains_iff] at hc he
  rw [linear_eq, linear_eq, add_mul_lt_add_mul_iff hc.1 he.1, add_mul_lt_add_mul_iff hc.2.1 he.2.1,
    Coord.Before]
  constructor
  · rintro ((h | ⟨hk, h⟩) | ⟨h, hi⟩)
    · exact Or.inl h
    · exact Or.inr ⟨hk, Or.inl h⟩
    · obtain ⟨hj, hk⟩ := add_mul_inj hc.2.1 he.2.1 h
      exact Or.inr ⟨hk, Or.inr ⟨hj, hi⟩⟩
  · rintro (h | ⟨hk, h | ⟨hj, hi⟩⟩)
    · exact Or.inl (Or.inl h)
    · exact Or.inl (Or.inr ⟨hk, h⟩)
    · exact Or.inr ⟨by rw [hj, hk], hi⟩

theorem linear_delinear (d : Dims) (n : Int) : d.linear (d.delinear n) = n := by
  have hrow := Int.emod_add_mul_ediv (n % (d.nx * d.ny)) d.nx
  have hlayer := Int.emod_add_mul_ediv n (d.nx * d.ny)
  rw [linear_eq, delinear, Int.mul_add, ← Int.mul_assoc, ← Int.add_assoc, hrow, hlayer]

theorem contains_delinear (h : 0 ≤ n ∧ n < d.size) : d.contains (d.delinear n) = true := by
  have hx : (0 : Int) < d.nx := Int.natCast_pos.mpr d.nx_pos
  have hy : (0 : Int) < d.ny := Int.natCast_pos.mpr d.ny_pos
  have hlayer : (0 : Int) < d.nx * d.ny := Int.mul_pos hx hy
  have hrest := Int.emod_nonneg n (Int.ne_of_gt hlayer)
  have hrow : n % (d.nx * d.ny) < d.ny * d.nx := by
    rw [Int.mul_comm (d.ny : Int)]
    exact Int.emod_lt_of_pos n hlayer
  have hn : n < d.nz * (d.nx * d.ny) := by
    have := h.2
    rwa [size, Int.natCast_mul, Int.natCast_mul, Int.mul_comm] at this
  rw [contains_iff, delinear]
  exact ⟨⟨Int.emod_nonneg _ (Int.ne_of_gt hx), Int.emod_lt_of_pos _ hx⟩,
    ⟨Int.ediv_nonneg hrest (Int.le_of_lt hx), Int.ediv_lt_of_lt_mul hx hrow⟩,
    Int.ediv_nonneg h.1 (Int.le_of_lt hlayer), Int.ediv_lt_of_lt_mul hlayer hn⟩

theorem delinear_linear (h : d.contains c = true) : d.delinear (d.linear c) = c :=
  linear_inj (contains_delinear ⟨linear_nonneg h, linear_lt h⟩) h (d.linear_delinear _)

theorem coord_linear (h : d.contains c = true) : d.coord (d.linear c) = .ok c := by
  rw [coord, if_pos ⟨linear_nonneg h, linear_lt h⟩, delinear_linear h]

theorem index_eq_ok_iff : d.index c = .ok n ↔ d.Numbers c n := by
  rw [index, Numbers]
  constructor
  · intro h
    split at h
    · rename_i hin
      exact ⟨hin, (Except.ok.inj h).symm⟩
    · cases h
  · intro h
    rw [if_pos h.1, h.2]

theorem coord_eq_ok_iff : d.coord n = .ok c ↔ d.Numbers c n := by
  rw [coord]
  constructor
  · intro h
    split at h
    · rename_i hn
      cases h
      exact ⟨contains_delinear hn, (linear_delinear d n).symm⟩
    · cases h
  · intro h
    obtain ⟨hin, rfl⟩ := h
    exact coord_linear hin

/-- Numbers and places of cells determine each other. A place has a number just if it lies in the
grid, a number has a place just if it is less than the number of cells, each leads back to the
other, and numbers grow with places, `k` counting first and `i` last. -/
theorem index_inverts_coord (d : Dims) :
    (∀ c, ((∃ n, d.index c = .ok n) ↔
        (0 ≤ c.i ∧ c.i < d.nx) ∧ (0 ≤ c.j ∧ c.j < d.ny) ∧ 0 ≤ c.k ∧ c.k < d.nz) ∧
      ∀ n, d.index c = .ok n → (0 ≤ n ∧ n < d.size) ∧ d.coord n = .ok c) ∧
    (∀ n, ((∃ c, d.coord n = .ok c) ↔ 0 ≤ n ∧ n < d.size) ∧
      ∀ c, d.coord n = .ok c → d.contains c = true ∧ d.index c = .ok n) ∧
    ∀ c e m n, d.index c = .ok m → d.index e = .ok n → (m < n ↔ c.Before e) := by
  simp only [index_eq_ok_iff, coord_eq_ok_iff]
  refine ⟨fun c ↦ ⟨?_, ?_⟩, fun n ↦ ⟨?_, fun c h ↦ ⟨h.1, h⟩⟩, ?_⟩
  · simp only [Numbers, exists_and_left, exists_eq, and_true]
    exact contains_iff
  · intro n h
    obtain ⟨hin, rfl⟩ := h
    exact ⟨⟨linear_nonneg hin, linear_lt hin⟩, hin, rfl⟩
  · constructor
    · intro h
      obtain ⟨c, hin, rfl⟩ := h
      exact ⟨linear_nonneg hin, linear_lt hin⟩
    · intro hn
      exact ⟨d.delinear n, contains_delinear hn, (linear_delinear d n).symm⟩
  · intro c e m n hc he
    rw [hc.2, he.2]
    exact linear_lt_linear_iff hc.1 he.1

/-- In layers of two by three cells, the last cell of a layer has the number before that of the
first cell of the next layer. -/
theorem index_inverts_coord_layers : ∃ d : Dims, d.corner = ⟨2, 3, 4⟩ ∧
    d.coord 11 = .ok ⟨1, 2, 1⟩ ∧ (⟨1, 2, 1⟩ : Coord).Before ⟨0, 0, 2⟩ ∧
    (∀ n, d.index ⟨2, 0, 0⟩ ≠ .ok n) ∧ ∃ c, d.coord 23 = .ok c ∧ d.index c = .ok 23 := by
  let d : Dims := ⟨2, 3, 4, by decide, by decide, by decide⟩
  obtain ⟨hindex, hcoord, horder⟩ := index_inverts_coord d
  have hlast : d.index ⟨1, 2, 1⟩ = .ok 11 := rfl
  have hfirst : d.index ⟨0, 0, 2⟩ = .ok 12 := rfl
  refine ⟨d, rfl, ((hindex _).2 11 hlast).2, ?_, ?_, ?_⟩
  · exact (horder _ _ 11 12 hlast hfirst).mp (by decide)
  · intro n hn
    have hout := (hindex ⟨2, 0, 0⟩).1.mp ⟨n, hn⟩
    exact absurd hout.1.2 (by decide)
  · obtain ⟨c, hc⟩ := (hcoord 23).1.mpr (by decide)
    exact ⟨c, hc, ((hcoord 23).2 c hc).2⟩

end Dims

/-- Places are visited in their order if `i`, `j` and `k` each run upward. -/
theorem pairwise_before {is js ks : List Int} (hi : is.Pairwise (· < ·)) (hj : js.Pairwise (· < ·))
    (hk : ks.Pairwise (· < ·)) :
    (ks.flatMap fun k ↦ js.flatMap fun j ↦ is.map fun i ↦ (⟨i, j, k⟩ : Coord)).Pairwise
      Coord.Before := by
  have hrow (j k : Int) : (is.map fun i ↦ (⟨i, j, k⟩ : Coord)).Pairwise Coord.Before := by
    rw [List.pairwise_map]
    exact hi.imp fun h ↦ Or.inr ⟨rfl, Or.inr ⟨rfl, h⟩⟩
  have hlayer (k : Int) :
      (js.flatMap fun j ↦ is.map fun i ↦ (⟨i, j, k⟩ : Coord)).Pairwise Coord.Before := by
    refine List.pairwise_flatMap.mpr ⟨fun j _ ↦ hrow j k, hj.imp fun h c hc e he ↦ ?_⟩
    obtain ⟨i, -, rfl⟩ := List.mem_map.mp hc
    obtain ⟨i', -, rfl⟩ := List.mem_map.mp he
    exact Or.inr ⟨rfl, Or.inl h⟩
  refine List.pairwise_flatMap.mpr ⟨fun k _ ↦ hlayer k, hk.imp fun h c hc e he ↦ ?_⟩
  obtain ⟨j, -, hc⟩ := List.mem_flatMap.mp hc
  obtain ⟨i, -, rfl⟩ := List.mem_map.mp hc
  obtain ⟨j', -, he⟩ := List.mem_flatMap.mp he
  obtain ⟨i', -, rfl⟩ := List.mem_map.mp he
  exact Or.inl h

namespace Box

/-- The numbers of the cells of a box are increasing. -/
theorem pairwise_linear_cells (b : Box) (d : Dims) :
    (b.cells d).Pairwise fun c e ↦ d.linear c < d.linear e := by
  have hbefore : (b.cells d).Pairwise Coord.Before :=
    pairwise_before (pairwise_span ..) (pairwise_span ..) (pairwise_span ..)
  refine hbefore.imp_of_mem fun hc he h ↦ ?_
  exact (Dims.linear_lt_linear_iff (mem_cells.mp hc).2 (mem_cells.mp he).2).mpr h

/-- The cells of a box are those that are met in it when all cells of the grid are visited in the
order of their numbers. -/
theorem cells_eq_scan (b : Box) (d : Dims) :
    b.cells d = ((List.range d.size).map fun (n : Nat) ↦ d.delinear n).filter b.contains := by
  have hscan : ((List.range d.size).map fun (n : Nat) ↦ d.delinear n).Pairwise
      fun c e ↦ d.linear c < d.linear e := by
    rw [List.pairwise_map]
    refine List.pairwise_lt_range.imp fun h ↦ ?_
    rw [Dims.linear_delinear, Dims.linear_delinear]
    exact Int.ofNat_lt.mpr h
  refine (b.pairwise_linear_cells d).eq_of_mem_iff (hscan.filter _) fun c ↦ ?_
  rw [mem_cells, List.mem_filter, and_comm]
  refine and_congr_left fun _ ↦ ?_
  rw [List.mem_map]
  constructor
  · intro h
    have hpos := Dims.linear_nonneg h
    refine ⟨(d.linear c).toNat, List.mem_range.mpr (Dims.toNat_linear_lt h), ?_⟩
    rw [Int.toNat_of_nonneg hpos, Dims.delinear_linear h]
  · rintro ⟨n, hn, rfl⟩
    have hlt := List.mem_range.mp hn
    exact Dims.contains_delinear ⟨Int.natCast_nonneg n, by omega⟩

end Box

end Aquifer
