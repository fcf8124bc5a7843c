import Aquifer.Proofs.Grid.Array
import Aquifer.Proofs.Grid.Numbering

namespace Aquifer

theorem count_take_eq_countP (bs : List Bool) (n : Nat) :
    (bs.take n).count true = (List.range n).countP fun m ↦ bs.getD m false := by
  induction n with
  | zero => rfl
  | succ n ih =>
    rw [List.take_add_one, List.count_append, ih, List.range_succ, List.countP_append,
      List.countP_singleton, List.getD_eq_getElem?_getD]
    cases bs[n]? with
    | none => rfl
    | some b => cases b <;> rfl

theorem exists_count_take_eq {bs : List Bool} {k : Nat} (h : k < bs.count true) :
    ∃ n, bs.getD n false = true ∧ (bs.take n).count true = k := by
  induction bs generalizing k with
  | nil => exact absurd h (Nat.not_lt_zero k)
  | cons b bs ih =>
    cases b with
    | false =>
      obtain ⟨n, hn, hcount⟩ := ih (k := k) h
      exact ⟨n + 1, hn, hcount⟩
    | true =>
      rw [List.count_cons_self] at h
      cases k with
      | zero => exact ⟨0, rfl, rfl⟩
      | succ k =>
        obtain ⟨n, hn, hcount⟩ := ih (Nat.lt_of_succ_lt_succ h)
        exact ⟨n + 1, hn, by rw [List.take_succ_cons, List.count_cons_self, hcount]⟩

namespace Grid

variable {g : Grid} {c : Coord} {n : Int} {k : Nat}

theorem lt_size_of_active {n : Nat} (h : g.active.toList.getD n false = true) :
    n < g.dims.size := by
  by_contra hn
  have hlength : g.active.toList.length ≤ n := by
    rw [Vector.length_toList]
    omega
  rw [List.getD_eq_getElem?_getD, List.getElem?_eq_none hlength] at h
  cases h

theorem activeIndex_eq_ok_iff : g.activeIndex n = .ok k ↔
    (0 ≤ n ∧ n < g.dims.size) ∧ g.active.toList.getD n.toNat false = true ∧ k = g.rank n.toNat := by
  rw [activeIndex, Dims.coord]
  by_cases hn : 0 ≤ n ∧ n < g.dims.size
  · rw [if_pos hn, Except.ok_bind]
    split
    · rename_i hactive
      exact ⟨fun h ↦ ⟨hn, hactive, (Except.ok.inj h).symm⟩, fun h ↦ congrArg Except.ok h.2.2.symm⟩
    · rename_i hinactive
      constructor
      · intro h
        cases h
      · intro h
        exact absurd h.2.1 hinactive
  · rw [if_neg hn]
    constructor
    · intro h
      cases h
    · intro h
      exact absurd h.1 hn

theorem rank_eq_countP (g : Grid) (n : Nat) :
    g.rank n = (List.range n).countP fun m ↦ g.active.toList.getD m false :=
  count_take_eq_countP ..

theorem exists_rank_eq (h : k < g.activeCount) :
    ∃ n, g.active.toList.getD n false = true ∧ g.rank n = k :=
  exists_count_take_eq h

/-- Active numbers are ranks: the active cells are numbered from zero without gaps, in the order of
their cell numbers. -/
structure Ranked (g : Grid) : Prop where
  numbered : ∀ n : Int, (∃ k, g.activeIndex n = .ok k) ↔
    (0 ≤ n ∧ n < g.dims.size) ∧ g.active.toList.getD n.toNat false = true
  rank : ∀ n k, g.activeIndex n = .ok k →
    k = (List.range n.toNat).countP fun m ↦ g.active.toList.getD m false
  increasing : ∀ n n' k k', g.activeIndex n = .ok k → g.activeIndex n' = .ok k' → (n < n' ↔ k < k')
  filled : ∀ k, (∃ n, g.activeIndex n = .ok k) ↔ k < g.activeCount

theorem ranked (g : Grid) : g.Ranked where
  numbered n := by
    simp only [activeIndex_eq_ok_iff, exists_and_left, exists_eq, and_true]
  rank n k h := by
    rw [← rank_eq_countP]
    exact (activeIndex_eq_ok_iff.mp h).2.2
  increasing n n' k k' h h' := by
    obtain ⟨hn, hactive, rfl⟩ := activeIndex_eq_ok_iff.mp h
    obtain ⟨hn', hactive', rfl⟩ := activeIndex_eq_ok_iff.mp h'
    constructor
    · intro hlt
      exact rank_lt_rank hactive (by omega)
    · intro hrank
      by_contra hge
      rcases Int.lt_or_eq_of_le (Int.not_lt.mp hge) with hlt | rfl
      · have := rank_lt_rank hactive' (k := n.toNat) (by omega)
        omega
      · exact Nat.lt_irrefl _ hrank
  filled k := by
    constructor
    · rintro ⟨n, hn⟩
      obtain ⟨-, hactive, rfl⟩ := activeIndex_eq_ok_iff.mp hn
      exact count_take_lt hactive
    · intro h
      obtain ⟨n, hactive, rfl⟩ := exists_rank_eq h
      have hn : (n : Int) < g.dims.size := Int.ofNat_lt.mpr (lt_size_of_active hactive)
      exact ⟨n, activeIndex_eq_ok_iff.mpr ⟨⟨Int.natCast_nonneg n, hn⟩, hactive, rfl⟩⟩

/-- A place has an active cell just if the number of the place has an active number. -/
theorem marks_iff_activeIndex (c : Coord) : g.marks (g.mapOr none) c = true ↔
    ∃ n k, g.dims.index c = .ok n ∧ g.activeIndex n = .ok k := by
  have hmark : (g.mapOr none).getD (g.dims.linear c).toNat false =
      g.active.toList.getD (g.dims.linear c).toNat false := by
    rw [Array.getD_eq_getD_getElem?, List.getD_eq_getElem?_getD]
    simp [mapOr]
  rw [marks, Bool.and_eq_true, hmark]
  constructor
  · rintro ⟨hin, hactive⟩
    exact ⟨_, _, Dims.index_of_contains hin, activeIndex_linear hin hactive⟩
  · rintro ⟨n, k, hn, hk⟩
    rw [Dims.index] at hn
    split at hn
    · rename_i hin
      cases hn
      exact ⟨hin, (activeIndex_eq_ok_iff.mp hk).2.1⟩
    · cases hn

/-- Everything that tells whether a place has an active cell tells the same, whether the grid's own
map is given or not. -/
structure ViewsAgree (g : Grid) : Prop where
  inside : ∀ c, g.dims.contains c = true → ∃ n b, g.dims.index c = .ok n ∧
    g.active.toList[n.toNat]? = some b ∧ g.cellActive c = .ok b ∧
      ∀ override ∈ [none, some g.active.toArray], g.activeIn (g.mapOr override) c = .ok b
  outside : ∀ c override, g.dims.contains c = false → g.activeIn (g.mapOr override) c = .ok false
  neighbour : ∀ c f, ∀ override ∈ [none, some g.active.toArray],
    ∃ b, g.neighbourActive (g.mapOr override) c f = .ok b ∧
      (b = true ↔ ∃ n k, g.dims.index (c + f.offset) = .ok n ∧ g.activeIndex n = .ok k)

theorem mapOr_own {override : Option ActiveMap} (h : override ∈ [none, some g.active.toArray]) :
    g.mapOr override = g.active.toArray := by
  rcases List.mem_cons.mp h with rfl | h
  · rfl
  · rw [List.mem_singleton.mp h]
    rfl

theorem viewsAgree (g : Grid) : g.ViewsAgree where
  inside c hc := by
    have hlt : (g.dims.linear c).toNat < g.active.toList.length := by
      rw [Vector.length_toList]
      exact Dims.toNat_linear_lt hc
    refine ⟨_, _, Dims.index_of_contains hc, List.getElem?_eq_getElem hlt, ?_, fun override ho ↦ ?_⟩
    · rw [cellActive_of_contains hc, List.getD_eq_getElem?_getD, List.getElem?_eq_getElem hlt]
      rfl
    · rw [mapOr_own ho, activeIn, if_pos hc, ← Array.getElem?_toList]
      simp only [Vector.toList_toArray, List.getElem?_eq_getElem hlt]
  outside c override hc := by
    rw [activeIn, hc]
    rfl
  neighbour c f override ho := by
    rw [mapOr_own ho, neighbourActive, activeIn_eq g.active.size_toArray]
    exact ⟨_, rfl, marks_iff_activeIndex _⟩

/-- The active cells are the ones at whose places nested lists have a true entry; without lists,
every cell is active. -/
def Follows (g : Grid) : Option Raw → Prop
  | none => ∀ c, g.dims.contains c = true → g.cellActive c = .ok true
  | some x => ∀ c, g.dims.contains c = true →
    ∃ y, x.at? [c.i.toNat, c.j.toNat, c.k.toNat] = some y ∧ g.cellActive c = y.toFlag

theorem rowMajor_eq {d : Dims} {c : Coord} (hc : d.contains c = true) :
    rowMajor d c = Raw.number [d.nx, d.ny, d.nz] [c.i.toNat, c.j.toNat, c.k.toNat] := by
  obtain ⟨⟨hi, -⟩, ⟨hj, -⟩, hk, -⟩ := Dims.contains_iff.mp hc
  obtain ⟨i, hi⟩ := Int.eq_ofNat_of_zero_le hi
  obtain ⟨j, hj⟩ := Int.eq_ofNat_of_zero_le hj
  obtain ⟨k, hk⟩ := Int.eq_ofNat_of_zero_le hk
  have hcast : (i * d.ny + j) * d.nz + k = (((i * d.ny + j) * d.nz + k : Nat) : Int) := rfl
  rw [rowMajor, hi, hj, hk, hcast]
  simp only [Raw.number, List.prod_cons, List.prod_nil, Int.toNat_natCast, Nat.add_mul,
    Nat.mul_assoc, Nat.add_assoc, Nat.mul_one, Nat.add_zero]

/-- A value kept by the number of its cell stands at the place of the cell in nested lists. -/
theorem getD_byIndex {α : Type} {d : Dims} {c : Coord} (hc : d.contains c = true) (fallback : α)
    (xs : Array α) : (byIndex d fallback xs).toList.getD (d.linear c).toNat fallback =
      xs.getD (Raw.number [d.nx, d.ny, d.nz] [c.i.toNat, c.j.toNat, c.k.toNat]) fallback := by
  have hlt : (d.linear c).toNat < (byIndex d fallback xs).toList.length := by
    rw [Vector.length_toList]
    exact Dims.toNat_linear_lt hc
  rw [List.getD_eq_getElem?_getD, List.getElem?_eq_getElem hlt, ← rowMajor_eq hc]
  simp only [byIndex, Option.getD_some, Vector.getElem_toList, Vector.getElem_ofFn]
  rw [Int.toNat_of_nonneg (Dims.linear_nonneg hc), Dims.delinear_linear hc]

theorem exists_flag {d : Dims} {x : Raw} {xs : List Bool}
    (h : x.array Raw.toFlag = .ok ([d.nx, d.ny, d.nz], xs)) (hc : d.contains c = true) :
    ∃ y, x.at? [c.i.toNat, c.j.toNat, c.k.toNat] = some y ∧
      y.toFlag = .ok ((byIndex d false xs.toArray).toList.getD (d.linear c).toNat false) := by
  obtain ⟨⟨hi, hi'⟩, ⟨hj, hj'⟩, hk, hk'⟩ := Dims.contains_iff.mp hc
  rw [Raw.array] at h
  split at h
  · rename_i shape hshape
    split at h
    · cases h
    · obtain ⟨ys, hys, h⟩ := Except.bind_eq_ok_iff.mp h
      obtain ⟨rfl, rfl⟩ := Prod.mk.inj (Except.ok.inj h)
      have hplace : List.Forall₂ (· < ·) [c.i.toNat, c.j.toNat, c.k.toNat] [d.nx, d.ny, d.nz] :=
        .cons (by omega) (.cons (by omega) (.cons (by omega) .nil))
      obtain ⟨y, hat, hscalar⟩ := Raw.exists_at? hshape hplace
      refine ⟨y, hat, ?_⟩
      obtain ⟨b, hb, hflag⟩ := Except.exists_getElem?_of_mapM hys hscalar
      rw [getD_byIndex hc, hflag]
      simp [Array.getD_eq_getD_getElem?, hb]
  · cases h

/-- The map of active cells of a grid made from arrays is what the arrays say. -/
theorem follows_of_ofArrays {size : Coord} {a : GridArrays} (h : ofArrays size a = .ok g) :
    g.Follows a.active := by
  rw [ofArrays] at h
  obtain ⟨d, -, h⟩ := Except.bind_eq_ok_iff.mp h
  obtain ⟨dx, -, h⟩ := Except.bind_eq_ok_iff.mp h
  obtain ⟨dy, -, h⟩ := Except.bind_eq_ok_iff.mp h
  obtain ⟨dz, -, h⟩ := Except.bind_eq_ok_iff.mp h
  obtain ⟨tops, -, h⟩ := Except.bind_eq_ok_iff.mp h
  cases hactive : a.active with
  | none =>
    rw [hactive] at h
    cases Except.ok.inj h
    intro c hc
    rw [cellActive_of_contains hc, Vector.toList_replicate, List.getD_eq_getElem?_getD,
      List.getElem?_replicate_of_lt (Dims.toNat_linear_lt hc)]
    rfl
  | some x =>
    rw [hactive] at h
    obtain ⟨⟨found, xs⟩, hx, h⟩ := Except.bind_eq_ok_iff.mp h
    simp only at h
    split at h
    · rename_i hfound
      cases hfound
      cases Except.ok.inj h
      intro c hc
      obtain ⟨y, hat, hy⟩ := exists_flag hx hc
      exact ⟨y, hat, by rw [cellActive_of_contains hc, hy]⟩
    · cases h

/-- Active numbers are ranks, and everything that tells whether a cell is active tells the same, for
a grid that was made from arrays what its array says. -/
theorem activity_agrees (g : Grid) : g.Ranked ∧ g.ViewsAgree ∧
    ∀ size a, ofArrays size a = .ok g → g.Follows a.active :=
  ⟨g.ranked, g.viewsAgree, fun _ _ ↦ follows_of_ofArrays⟩

def holed : Raw :=
  .list [.list [.list [.int 1], .list [.int 1], .list [.int 0]],
    .list [.list [.int 0], .list [.int 1], .list [.int 1]]]

/-- The numbers run along `i` first: before the last cell there are three active ones, and the one
right before it is inactive. -/
theorem activity_agrees_holed : ∃ g, ofArrays ⟨2, 3, 1⟩ { active := some holed } = .ok g ∧
    g.activeIndex 5 = .ok 3 ∧ g.cellActive ⟨0, 2, 0⟩ = .ok false := by
  obtain ⟨g, hg, hsize, hactive, hin⟩ : ∃ g,
      ofArrays ⟨2, 3, 1⟩ { active := some holed } = .ok g ∧ g.dims.size = 6 ∧
      g.active.toList = [true, false, true, true, false, true] ∧
      g.dims.contains ⟨0, 2, 0⟩ = true := ⟨_, rfl, rfl, rfl, rfl⟩
  obtain ⟨hranked, -, hfollows⟩ := activity_agrees g
  have hlast : ∃ k, g.activeIndex 5 = .ok k := by
    rw [hranked.numbered, hactive, hsize]
    decide
  obtain ⟨k, hk⟩ := hlast
  have hrank := hranked.rank 5 k hk
  rw [hactive] at hrank
  obtain ⟨y, hy, hcell⟩ := hfollows _ _ hg _ hin
  cases hy
  exact ⟨g, hg, hk.trans (congrArg _ (hrank.trans rfl)), hcell⟩

end Grid

end Aquifer
