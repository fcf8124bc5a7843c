import Aquifer.Binary.Bytes
import Aquifer.Proofs.OwnKeys
import Mathlib.Algebra.Group.Int.Defs
import Mathlib.Algebra.Group.Nat.Defs

namespace Aquifer

def IntegerFits (n : Int) : Prop := Binary.fits 8 n = true

instance : DecidablePred IntegerFits := fun n ↦ inferInstanceAs (Decidable (Binary.fits 8 n = true))

def CountFits {α : Type} (xs : List α) : Prop := IntegerFits xs.length

theorem integerFits_iff {n : Int} : IntegerFits n ↔ -2 ^ 63 ≤ n ∧ n < 2 ^ 63 := by
  have hw : (Binary.wordCount 8 : Int) = 2 ^ 64 := rfl
  simp only [IntegerFits, Binary.fits, hw, Bool.and_eq_true, decide_eq_true_eq]
  omega

theorem countFits_iff {α : Type} {xs : List α} : CountFits xs ↔ xs.length < 2 ^ 63 := by
  rw [CountFits, integerFits_iff]
  omega

theorem Face.integerFits_code (f : Face) : IntegerFits f.code := by
  show Binary.fits 8 f.code = true
  obtain ⟨_ | _ | _, _ | _⟩ := f <;> decide

def Coord.IntegersFit (c : Coord) : Prop := IntegerFits c.i ∧ IntegerFits c.j ∧ IntegerFits c.k

def Fetkovich.IntegersFit (a : Fetkovich) : Prop := IntegerFits a.id ∧ IntegerFits a.pvtTable

def CarterTracy.IntegersFit (a : CarterTracy) : Prop :=
  IntegerFits a.id ∧ IntegerFits a.pvtTable ∧ IntegerFits a.influenceTable

def ConstantFlux.IntegersFit (a : ConstantFlux) : Prop := IntegerFits a.id

def StorageCell.IntegersFit (c : StorageCell) : Prop :=
  IntegerFits c.aquifer ∧ c.place.IntegersFit ∧ IntegerFits c.index ∧ IntegerFits c.pvtTable ∧
    IntegerFits c.satTable

def Coupling.IntegersFit (c : Coupling) : Prop :=
  IntegerFits c.aquifer ∧ c.place.IntegersFit ∧ IntegerFits c.index ∧ IntegerFits c.option

def NumericalAquifer.IntegersFit (a : NumericalAquifer) : Prop :=
  IntegerFits a.id ∧ (∀ c ∈ a.cells, c.IntegersFit) ∧ ∀ c ∈ a.couplings, c.IntegersFit

def InfluxCell.ListFits (e : Int × List InfluxCell) : Prop :=
  IntegerFits e.1 ∧ ∀ c ∈ e.2, IntegerFits c.index

namespace Configuration

structure IntegersFit (c : Configuration) : Prop where
  fetkovich : ∀ a ∈ c.fetkovich.toList, a.IntegersFit
  carterTracy : ∀ a ∈ c.carterTracy.toList, a.IntegersFit
  constantFlux : ∀ a ∈ c.constantFlux.toList, a.IntegersFit
  numerical : ∀ a ∈ c.numerical.toList, a.IntegersFit
  influx : ∀ e ∈ c.influx.cells.entries, InfluxCell.ListFits e

/-- The number of rows of each table is an integer too, stored with the table, and so is the place
at which each influence table ends when they are laid end to end; all fit into words of eight
bytes. -/
structure RowsFit (c : Configuration) : Prop where
  fetkovich : CountFits c.fetkovich.toList
  carterTracy : CountFits c.carterTracy.toList
  times : CountFits (c.carterTracy.toList.map (·.times)).flatten
  pressures : CountFits (c.carterTracy.toList.map (·.pressures)).flatten
  constantFlux : CountFits c.constantFlux.toList
  cells : CountFits c.numerical.cells
  couplings : CountFits c.numerical.couplings
  influx : CountFits c.influx.toList

def small : Configuration where
  fetkovich := ⟨⟨[(7, ⟨7, ⟨1⟩, ⟨2⟩, ⟨3⟩, ⟨4⟩, 1, none, ⟨5⟩, some ⟨6⟩⟩)], by decide⟩⟩
  carterTracy := ⟨⟨[(-2, ⟨-2, ⟨1⟩, ⟨2⟩, ⟨3⟩, ⟨4⟩, ⟨5⟩, ⟨6⟩, ⟨7⟩, 1, 2, some ⟨8⟩, [⟨9⟩, ⟨10⟩], []⟩)],
    by decide⟩⟩
  constantFlux := ⟨⟨[(7, ⟨7, ⟨1⟩, ⟨2⟩, none, none⟩), (3, ⟨3, .nan, ⟨2⟩, none, some ⟨4⟩⟩)],
    by decide⟩⟩
  numerical := ⟨⟨[
      (5, ⟨5, [⟨5, ⟨0, 1, 2⟩, 9, ⟨1⟩, ⟨2⟩, ⟨3⟩, ⟨4⟩, ⟨5⟩, 1, 1, none⟩],
        [⟨5, ⟨0, 0, 0⟩, 0, ⟨.z, true⟩, ⟨1⟩, 0, true, ⟨2⟩, ⟨3⟩⟩]⟩),
      (4, ⟨4, [], []⟩)], by decide⟩⟩
  influx := ⟨⟨[(7, [⟨7, 3, ⟨1⟩, ⟨.x, false⟩⟩, ⟨7, 2, ⟨4⟩, ⟨.y, true⟩⟩])], by decide⟩⟩

theorem small_ownKeys : small.OwnKeys := by
  constructor <;> simp [small, Collection.OwnKeys, Registry.OwnKeys, Influx.OwnKeys,
    AnalyticKind.id]

theorem small_integersFit : small.IntegersFit := by
  constructor <;> simp [small, Collection.toList, Registry.toList, Keyed.values,
    Fetkovich.IntegersFit, CarterTracy.IntegersFit, ConstantFlux.IntegersFit,
    NumericalAquifer.IntegersFit, StorageCell.IntegersFit, Coupling.IntegersFit,
    Coord.IntegersFit, InfluxCell.ListFits, integerFits_iff]

theorem small_ownParts : small.OwnParts := by
  constructor <;> simp [small, Registry.toList, Keyed.values, NumericalAquifer.OwnParts]

theorem small_rowsFit : small.RowsFit := by
  constructor <;> simp [small, Collection.toList, Registry.toList, Registry.cells,
    Registry.couplings, Influx.toList, Keyed.values, countFits_iff]

end Configuration

end Aquifer
