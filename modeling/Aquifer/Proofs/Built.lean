import Aquifer.Proofs.Analytic.Influx
import Aquifer.Proofs.Numerical.Registry
import Aquifer.Proofs.OwnKeys

namespace Aquifer

inductive Builder.Built : Builder → Prop
  | empty : Built ∅
  | addCell {b b' : Builder} {c : StorageCell} (hb : Built b) (h : b.addCell c = .ok b') : Built b'
  | attach {b b' : Builder} {c : Coupling} {attached : Bool} (hb : Built b)
      (h : (b.attach c).result = .ok (b', attached)) : Built b'

inductive Registry.Built : Registry → Prop
  | empty : Built ∅
  | finalize {b : Builder} (hb : b.Built) : Built b.finalize.1

/-- A configuration that was read from a deck or began empty, and what became of it: influx cells
were loaded, the numerical aquifers replaced and analytic aquifers added. -/
inductive Configuration.Built : Configuration → Prop
  | empty : Built ∅
  | ofDeck {d : Deck} {g : Grid} {p : Properties} {tables : Option InfluenceTables}
      {override : Option ActiveMap} {c : Configuration}
      (h : (Configuration.ofDeck d g p tables override).result = .ok c) : Built c
  | loadInflux {c c' : Configuration} {d : Deck} {g : Grid} (hc : Built c)
      (h : (c.loadInflux d g).result = .ok c') : Built c'
  | replaceNumerical {c : Configuration} {r : Registry} (hc : Built c) (hr : r.Built) :
      Built { c with numerical := r }
  | addFetkovich {c : Configuration} (hc : Built c) (a : Fetkovich) :
      Built { c with fetkovich := c.fetkovich.add a }
  | addCarterTracy {c : Configuration} (hc : Built c) (a : CarterTracy) :
      Built { c with carterTracy := c.carterTracy.add a }
  | addConstantFlux {c : Configuration} (hc : Built c) (a : ConstantFlux) :
      Built { c with constantFlux := c.constantFlux.add a }

namespace Builder

structure OwnParts (b : Builder) : Prop where
  cells : ∀ e ∈ b.cells.entries, ∀ c ∈ e.2, c.aquifer = e.1
  couplings : ∀ e ∈ b.couplings.entries, ∀ c ∈ e.2, c.aquifer = e.1

variable {b b' : Builder}

theorem OwnParts.addCell (h : b.OwnParts) {c : StorageCell} (hc : b.addCell c = .ok b') :
    b'.OwnParts := by
  obtain ⟨-, rfl⟩ := addCell_eq_ok_iff.mp hc
  refine ⟨Keyed.key_of_mem_push h.cells c, ?_⟩
  dsimp only
  split
  · exact h.couplings
  · intro e he x hx
    rcases Keyed.mem_entries_insert he with rfl | he
    · exact absurd hx List.not_mem_nil
    · exact h.couplings e he x hx

theorem OwnParts.attach (h : b.OwnParts) {c : Coupling} {attached : Bool}
    (hc : (b.attach c).result = .ok (b', attached)) : b'.OwnParts := by
  rw [Builder.attach] at hc
  split at hc
  · cases hc
    exact h
  · cases hc
    exact ⟨h.cells, Keyed.key_of_mem_push h.couplings c⟩

theorem Built.ownParts (h : b.Built) : b.OwnParts := by
  induction h with
  | empty => exact ⟨List.forall_mem_nil _, List.forall_mem_nil _⟩
  | addCell _ hc ih => exact ih.addCell hc
  | attach _ hc ih => exact ih.attach hc

variable {cs : Couplings}

theorem Built.attachList (h : b.Built) {ys : List Coupling}
    (hys : (b.attachList ys).result = .ok b') : b'.Built := by
  rw [Builder.attachList, Traced.result_foldlM] at hys
  refine Except.foldlM_keeps (fun b y b' hb hy ↦ ?_) h hys
  rw [Traced.result_bind] at hy
  obtain ⟨⟨_, attached⟩, hattach, hy⟩ := Except.bind_eq_ok_iff.mp hy
  cases hy
  exact hb.attach hattach

theorem Built.attachAquifers (h : b.Built) {ids : List Int} {problem : Option Issue}
    (hids : (attachAquifers cs ids b).result = .ok (b', problem)) : b'.Built := by
  induction ids generalizing b with
  | nil =>
    cases hids
    exact h
  | cons id ids ih =>
    rw [Builder.attachAquifers] at hids
    split at hids
    · cases hids
      exact h
    · rw [Traced.result_bind] at hids
      obtain ⟨d, hd, hids⟩ := Except.bind_eq_ok_iff.mp hids
      exact ih (h.attachList hd) hids

theorem built_of_ofRecords {g : Grid} {p : Properties} {rs : List Record}
    (h : ofRecords g p rs = .ok b) : b.Built := by
  refine Except.foldlM_keeps (fun b r b' hb hr ↦ ?_) .empty h
  obtain ⟨-, -, hr⟩ := Except.bind_eq_ok_iff.mp hr
  obtain ⟨c, -, hr⟩ := Except.bind_eq_ok_iff.mp hr
  cases hadd : b.addCell c with
  | error i =>
    rw [hadd] at hr
    exact nomatch hr
  | ok d =>
    rw [hadd] at hr
    cases hr
    exact hb.addCell hadd

theorem OwnParts.registry (h : b.OwnParts) :
    b.registry.OwnKeys ∧ ∀ a ∈ b.registry.toList, a.OwnParts := by
  have hentries : ∀ e ∈ b.registry.aquifers.entries, e.2.id = e.1 ∧ e.2.OwnParts := by
    intro e he
    obtain ⟨d, hd, rfl⟩ := List.mem_map.mp he
    refine ⟨rfl, h.cells d hd, fun c hc ↦ ?_⟩
    cases hget : b.couplings.get? d.1 with
    | none =>
      simp only [hget] at hc
      exact absurd hc List.not_mem_nil
    | some cs =>
      simp only [hget] at hc
      exact h.couplings _ (Keyed.mem_of_get? hget) c hc
  refine ⟨fun e he ↦ (hentries e he).1, fun a ha ↦ ?_⟩
  obtain ⟨e, he, rfl⟩ := List.mem_map.mp ha
  exact (hentries e he).2

end Builder

namespace Registry

variable {r : Registry}

theorem built_of_ofDeck {d : Deck} {g : Grid} {p : Properties} {override : Option ActiveMap}
    (h : (ofDeck d g p override).result = .ok r) : r.Built := by
  cases hd : d.has "AQUNUM" with
  | false =>
    rw [result_ofDeck_of_not_has hd] at h
    cases h
    exact .empty
  | true =>
    rw [result_ofDeck_of_has hd] at h
    obtain ⟨b, hb, h⟩ := Except.bind_eq_ok_iff.mp h
    obtain ⟨cs, -, h⟩ := Except.bind_eq_ok_iff.mp h
    obtain ⟨⟨b', problem⟩, hb', h⟩ := Except.bind_eq_ok_iff.mp h
    cases problem with
    | none =>
      cases h
      exact .finalize ((Builder.built_of_ofRecords hb).attachAquifers hb')
    | some i => exact nomatch h

theorem Built.own (h : r.Built) : r.OwnKeys ∧ ∀ a ∈ r.toList, a.OwnParts := by
  cases h with
  | empty => exact ⟨List.forall_mem_nil _, List.forall_mem_nil _⟩
  | finalize hb => exact hb.ownParts.registry

end Registry

theorem Collection.OwnKeys.add {α : Type} [AnalyticKind α] {c : Collection α} (h : c.OwnKeys)
    (a : α) : (c.add a).OwnKeys := by
  intro e he
  rcases Keyed.mem_entries_insert he with rfl | he
  · rfl
  · exact h e he

theorem Collection.ownKeys_of_ofRecords {α : Type} [AnalyticKind α]
    {build : Record → Except Fault α} {rs : List Record} {c : Collection α}
    (h : Collection.ofRecords build rs = .ok c) : c.OwnKeys := by
  refine Except.foldlM_keeps (fun c r c' hc hr ↦ ?_) (List.forall_mem_nil _) h
  obtain ⟨a, -, hr⟩ := Except.bind_eq_ok_iff.mp hr
  cases hr
  exact hc.add a

theorem Influx.ownKeys_ofCells (cs : List InfluxCell) : (Influx.ofCells cs).OwnKeys := by
  rw [Influx.ofCells_eq]
  intro e he c hc
  rw [Keyed.entries_group] at he
  obtain ⟨id, -, rfl⟩ := List.mem_map.mp he
  exact of_decide_eq_true (List.mem_filter.mp hc).2

def Claim.OwnCells (held : Keyed Int InfluxCell) : Prop := ∀ e ∈ held.entries, e.2.index = e.1

theorem Claim.OwnCells.record {held held' : Keyed Int InfluxCell} {x : Claim} (h : OwnCells held)
    (hx : (Claim.record held x).result = .ok held') : OwnCells held' := by
  rw [Claim.record] at hx
  split at hx
  · cases hx
    intro e he
    rcases Keyed.mem_entries_insert he with rfl | he
    · rfl
    · exact h e he
  · split at hx
    · cases hx
    · cases hx
      intro e he
      rw [Keyed.entries_insert_erase, List.mem_append, List.mem_filter, List.mem_singleton] at he
      rcases he with ⟨he, -⟩ | rfl
      · exact h e he
      · rfl

/-- The influx cells of a deck are different cells of the grid, sorted by aquifer. -/
theorem Influx.exists_ofCells {d : Deck} {g : Grid} {x : Influx}
    (h : (Influx.ofDeck d g).result = .ok x) :
    ∃ cs, x = Influx.ofCells cs ∧ (cs.map (·.index)).Nodup := by
  rw [Influx.ofDeck, Traced.result_bind, Traced.result_foldlM] at h
  obtain ⟨held, hheld, h⟩ := Except.bind_eq_ok_iff.mp h
  cases h
  have hnone : Claim.OwnCells ∅ := List.forall_mem_nil _
  refine ⟨held.values, rfl, Keyed.nodup_map_values ?_⟩
  refine Except.foldlM_keeps (fun held r held' hown hr ↦ ?_) hnone hheld
  rw [Traced.result_bind] at hr
  obtain ⟨xs, -, hxs⟩ := Except.bind_eq_ok_iff.mp hr
  rw [Traced.result_foldlM] at hxs
  exact Except.foldlM_keeps (fun _ _ _ ↦ Claim.OwnCells.record) hown hxs

namespace Configuration

variable {c : Configuration}

theorem result_ofDeck {d : Deck} {g : Grid} {p : Properties} {tables : Option InfluenceTables}
    {override : Option ActiveMap} : (ofDeck d g p tables override).result = do
      let fetkovich ← d.fetkovich
      let carterTracy ← d.carterTracy tables
      let constantFlux ← d.constantFlux
      let numerical ← (Registry.ofDeck d g p override).result.mapError Fault.reported
      return { fetkovich, carterTracy, constantFlux, numerical } := by
  simp only [ofDeck, Traced.result_bind, Traced.liftM_eq_ofExcept, Traced.result_ofExcept]
  rfl

theorem loadInflux_eq_ok_iff {d : Deck} {g : Grid} {c' : Configuration} :
    (c.loadInflux d g).result = .ok c' ↔
      ∃ x, (Influx.ofDeck d g).result = .ok x ∧ c' = { c with influx := x } := by
  rw [loadInflux, Traced.result_bind, Except.bind_eq_ok_iff]
  refine exists_congr fun x ↦ and_congr Except.mapError_eq_ok_iff ?_
  exact ⟨fun h ↦ (Except.ok.inj h).symm, fun h ↦ congrArg _ h.symm⟩

theorem own_of_ofDeck {d : Deck} {g : Grid} {p : Properties} {tables : Option InfluenceTables}
    {override : Option ActiveMap} (h : (ofDeck d g p tables override).result = .ok c) :
    c.OwnKeys ∧ c.OwnParts := by
  simp only [result_ofDeck, Except.bind_eq_ok_iff] at h
  obtain ⟨fetkovich, hfetkovich, carterTracy, hcarterTracy, constantFlux, hconstantFlux, numerical,
    hnumerical, h⟩ := h
  cases h
  have hbuilt := (Registry.built_of_ofDeck (Except.mapError_eq_ok_iff.mp hnumerical)).own
  exact ⟨⟨Collection.ownKeys_of_ofRecords hfetkovich, Collection.ownKeys_of_ofRecords hcarterTracy,
    Collection.ownKeys_of_ofRecords hconstantFlux, hbuilt.1, List.forall_mem_nil _⟩,
    hbuilt.2, List.forall_mem_nil _⟩

/-- However a configuration was built, it keeps everything under the number of its aquifer. -/
theorem Built.own (h : c.Built) : c.OwnKeys ∧ c.OwnParts := by
  have hnone : ∀ {α : Type} [AnalyticKind α], (∅ : Collection α).OwnKeys :=
    List.forall_mem_nil _
  induction h with
  | empty =>
    exact ⟨⟨hnone, hnone, hnone, List.forall_mem_nil _, List.forall_mem_nil _⟩,
      List.forall_mem_nil _, List.forall_mem_nil _⟩
  | ofDeck h => exact own_of_ofDeck h
  | loadInflux _ h ih =>
    obtain ⟨x, hx, rfl⟩ := loadInflux_eq_ok_iff.mp h
    obtain ⟨cs, rfl, -⟩ := Influx.exists_ofCells hx
    exact ⟨{ ih.1 with influx := Influx.ownKeys_ofCells cs },
      { ih.2 with influx := Influx.ofCells_nonempty cs }⟩
  | replaceNumerical _ hr ih =>
    exact ⟨{ ih.1 with numerical := hr.own.1 }, { ih.2 with numerical := hr.own.2 }⟩
  | addFetkovich _ a ih =>
    exact ⟨{ ih.1 with fetkovich := ih.1.fetkovich.add a }, ih.2.numerical, ih.2.influx⟩
  | addCarterTracy _ a ih =>
    exact ⟨{ ih.1 with carterTracy := ih.1.carterTracy.add a }, ih.2.numerical, ih.2.influx⟩
  | addConstantFlux _ a ih =>
    exact ⟨{ ih.1 with constantFlux := ih.1.constantFlux.add a }, ih.2.numerical, ih.2.influx⟩

end Configuration

end Aquifer
