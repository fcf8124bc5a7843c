import Aquifer.Deck.Record
import Aquifer.Grid.Basic

namespace Aquifer

structure Box where
  first : Coord
  last : Coord
  deriving DecidableEq, Repr

def span (a b : Int) (n : Nat) : List Int :=
  let low := a.toNat
  let high := (min (b + 1) n).toNat
  (List.range' low (high - low)).map Int.ofNat

namespace Box

def contains (b : Box) (c : Coord) : Bool :=
  b.first.i ≤ c.i && c.i ≤ b.last.i && b.first.j ≤ c.j && c.j ≤ b.last.j &&
    b.first.k ≤ c.k && c.k ≤ b.last.k

def cells (b : Box) (d : Dims) : List Coord :=
  (span b.first.k b.last.k d.nz).flatMap fun k ↦
    (span b.first.j b.last.j d.ny).flatMap fun j ↦
      (span b.first.i b.last.i d.nx).map fun i ↦ ⟨i, j, k⟩

/-- The box that a record spans; its corners count from one. -/
def ofRecord (r : Record) : Except Fault Box := do
  let i₁ ← r.int "I1"
  let i₂ ← r.int "I2"
  let j₁ ← r.int "J1"
  let j₂ ← r.int "J2"
  let k₁ ← r.int "K1"
  let k₂ ← r.int "K2"
  return ⟨(Coord.mk i₁ j₁ k₁).zeroBased, (Coord.mk i₂ j₂ k₂).zeroBased⟩

theorem mem_span {a b x : Int} {n : Nat} :
    x ∈ span a b n ↔ a ≤ x ∧ x ≤ b ∧ 0 ≤ x ∧ x < n := by
  simp only [span, List.mem_map, List.mem_range'_1]
  constructor
  · rintro ⟨y, hy, rfl⟩
    simp only [Int.ofNat_eq_natCast]
    omega
  · intro h
    exact ⟨x.toNat, by omega, by simp only [Int.ofNat_eq_natCast]; omega⟩

theorem mem_cells {b : Box} {d : Dims} {c : Coord} :
    c ∈ b.cells d ↔ b.contains c = true ∧ d.contains c = true := by
  obtain ⟨i, j, k⟩ := c
  simp only [cells, List.mem_flatMap, List.mem_map, mem_span, Coord.mk.injEq, Dims.contains_iff,
    contains, Bool.and_eq_true, decide_eq_true_eq]
  constructor
  · rintro ⟨_, hk, _, hj, _, hi, rfl, rfl, rfl⟩
    omega
  · intro h
    exact ⟨k, by omega, j, by omega, i, by omega, rfl, rfl, rfl⟩

end Box

end Aquifer
