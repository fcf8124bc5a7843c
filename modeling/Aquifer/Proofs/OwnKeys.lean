import Aquifer.Configuration
import Aquifer.Proofs.Keyed

namespace Aquifer

def Collection.OwnKeys {α : Type} [AnalyticKind α] (c : Collection α) : Prop :=
  ∀ e ∈ c.aquifers.entries, AnalyticKind.id e.2 = e.1

def Registry.OwnKeys (r : Registry) : Prop := ∀ e ∈ r.aquifers.entries, e.2.id = e.1

def NumericalAquifer.OwnParts (a : NumericalAquifer) : Prop :=
  (∀ c ∈ a.cells, c.aquifer = a.id) ∧ ∀ c ∈ a.couplings, c.aquifer = a.id

def Influx.OwnKeys (x : Influx) : Prop := ∀ e ∈ x.cells.entries, ∀ c ∈ e.2, c.aquifer = e.1

theorem Collection.ofList_eq {α : Type} [AnalyticKind α] (as : List α) :
    Collection.ofList as = ⟨Keyed.ofList (as.map fun a ↦ (AnalyticKind.id a, a))⟩ := by
  have h : ∀ (as : List α) (m : Keyed Int α), as.foldl Collection.add ⟨m⟩ =
      ⟨(as.map fun a ↦ (AnalyticKind.id a, a)).foldl (fun m e ↦ m.insert e.1 e.2) m⟩ := by
    intro as
    induction as with
    | nil => exact fun _ ↦ rfl
    | cons a as ih => exact fun m ↦ ih _
  exact h as ∅

theorem Collection.ownKeys_ofList {α : Type} [AnalyticKind α] (as : List α) :
    (Collection.ofList as).OwnKeys := by
  rw [Collection.ofList_eq]
  exact Keyed.key_of_mem_ofList

theorem Collection.toList_ofList_subperm {α : Type} [AnalyticKind α] (as : List α) :
    (Collection.ofList as).toList.Subperm as := by
  rw [Collection.ofList_eq]
  exact Keyed.values_ofList_subperm _ as

theorem Collection.ofList_toList {α : Type} [AnalyticKind α] {c : Collection α} (h : c.OwnKeys) :
    Collection.ofList c.toList = c := by
  rw [Collection.ofList_eq, Collection.toList, Keyed.ofList_values h]

theorem Registry.ofList_toList {r : Registry} (h : r.OwnKeys) :
    (⟨Keyed.ofList (r.toList.map fun a ↦ (a.id, a))⟩ : Registry) = r := by
  rw [Registry.toList, Keyed.ofList_values h]

theorem Registry.nodup_ids {r : Registry} (h : r.OwnKeys) : (r.toList.map (·.id)).Nodup :=
  Keyed.nodup_map_values h

theorem Collection.nodup_ids {α : Type} [AnalyticKind α] {c : Collection α} (h : c.OwnKeys) :
    (c.toList.map AnalyticKind.id).Nodup :=
  Keyed.nodup_map_values h

theorem Influx.ofCells_eq (cs : List InfluxCell) :
    Influx.ofCells cs = ⟨Keyed.group (·.aquifer) cs⟩ := by
  have h : ∀ (cs : List InfluxCell) (m : Keyed Int (List InfluxCell)),
      cs.foldl Influx.add ⟨m⟩ = ⟨m.pushAll (·.aquifer) cs⟩ := by
    intro cs
    induction cs with
    | nil => exact fun _ ↦ rfl
    | cons c cs ih => exact fun m ↦ ih _
  exact h cs ∅

theorem Influx.ofCells_toList {x : Influx} (h : x.OwnKeys) (hne : ∀ e ∈ x.cells.entries, e.2 ≠ []) :
    Influx.ofCells x.toList = x := by
  rw [Influx.ofCells_eq, Influx.toList, Keyed.group_flatten_values h hne]

structure Configuration.OwnKeys (c : Configuration) : Prop where
  fetkovich : c.fetkovich.OwnKeys
  carterTracy : c.carterTracy.OwnKeys
  constantFlux : c.constantFlux.OwnKeys
  numerical : c.numerical.OwnKeys
  influx : c.influx.OwnKeys

structure Configuration.OwnParts (c : Configuration) : Prop where
  numerical : ∀ a ∈ c.numerical.toList, a.OwnParts
  influx : ∀ e ∈ c.influx.cells.entries, e.2 ≠ []

end Aquifer
