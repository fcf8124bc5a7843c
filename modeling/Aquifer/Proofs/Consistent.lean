import Aquifer.Proofs.Built

namespace Aquifer

namespace Builder

variable {b : Builder}

/-- A builder has the cells that were given to it one after another. -/
theorem Built.exists_gathers (h : b.Built) : ∃ xs, b.Gathers xs := by
  induction h with
  | empty => exact ⟨[], gathers_empty⟩
  | addCell _ hc ih =>
    obtain ⟨xs, hxs⟩ := ih
    exact ⟨_, hxs.addCell hc⟩
  | attach _ hc ih =>
    obtain ⟨xs, hxs⟩ := ih
    rw [Builder.attach] at hc
    split at hc
    · cases hc
      exact ⟨xs, hxs⟩
    · cases hc
      exact ⟨xs, hxs.cells, hxs.owner⟩

end Builder

/-- Every aquifer has cells, and no cell number occurs twice, be it in one aquifer or in two. -/
structure Registry.Apart (r : Registry) : Prop where
  stored : ∀ a ∈ r.toList, a.cells ≠ []
  distinct : (r.cells.map (·.index)).Nodup

theorem Builder.Gathers.apart {b : Builder} {xs : List StorageCell} (h : b.Gathers xs) :
    b.registry.Apart where
  stored := by
    intro a ha
    obtain ⟨_, hentry, rfl⟩ := List.mem_map.mp ha
    obtain ⟨e, he, rfl⟩ := List.mem_map.mp hentry
    rw [h.cells] at he
    exact Keyed.ne_nil_of_mem_group e he
  distinct := by
    have hcells : b.registry.cells.Perm xs := by
      rw [registry, Registry.cells_mapValues fun _ _ ↦ rfl, h.cells]
      exact Keyed.flatten_values_group_perm _ xs
    rw [(hcells.map _).nodup_iff, ← h.owner_keys]
    exact b.owner.nodup_keys

theorem Registry.Built.apart {r : Registry} (h : r.Built) : r.Apart := by
  cases h with
  | empty => exact ⟨List.forall_mem_nil _, List.nodup_nil⟩
  | finalize hb =>
    obtain ⟨xs, hxs⟩ := hb.exists_gathers
    exact hxs.apart

namespace Configuration

structure DistinctIds (c : Configuration) : Prop where
  fetkovich : (c.fetkovich.toList.map (·.id)).Nodup
  carterTracy : (c.carterTracy.toList.map (·.id)).Nodup
  constantFlux : (c.constantFlux.toList.map (·.id)).Nodup
  numerical : (c.numerical.toList.map (·.id)).Nodup

theorem OwnKeys.distinctIds {c : Configuration} (h : c.OwnKeys) : c.DistinctIds :=
  ⟨Collection.nodup_ids h.fetkovich, Collection.nodup_ids h.carterTracy,
    Collection.nodup_ids h.constantFlux, Registry.nodup_ids h.numerical⟩

/-- Everything is kept under the number of its aquifer, and no grid cell is used twice. -/
structure Consistent (c : Configuration) : Prop where
  keys : c.OwnKeys
  ids : c.DistinctIds
  parts : c.OwnParts
  numerical : c.numerical.Apart
  influx : (c.influx.toList.map (·.index)).Nodup

variable {c : Configuration}

theorem Built.apart (h : c.Built) :
    c.numerical.Apart ∧ (c.influx.toList.map (·.index)).Nodup := by
  induction h with
  | empty => exact ⟨Registry.Built.empty.apart, List.nodup_nil⟩
  | ofDeck h =>
    simp only [result_ofDeck, Except.bind_eq_ok_iff] at h
    obtain ⟨_, -, _, -, _, -, r, hr, h⟩ := h
    cases h
    exact ⟨(Registry.built_of_ofDeck (Except.mapError_eq_ok_iff.mp hr)).apart, List.nodup_nil⟩
  | loadInflux _ h ih =>
    obtain ⟨x, hx, rfl⟩ := loadInflux_eq_ok_iff.mp h
    obtain ⟨cs, rfl, hcs⟩ := Influx.exists_ofCells hx
    exact ⟨ih.1, ((Influx.toList_ofCells_perm cs).map _).nodup_iff.mpr hcs⟩
  | replaceNumerical _ hr ih => exact ⟨hr.apart, ih.2⟩
  | addFetkovich _ _ ih => exact ih
  | addCarterTracy _ _ ih => exact ih
  | addConstantFlux _ _ ih => exact ih

theorem Built.consistent (h : c.Built) : c.Consistent :=
  ⟨h.own.1, h.own.1.distinctIds, h.own.2, h.apart.1, h.apart.2⟩

end Configuration

namespace Attempt

variable {σ : Type} {x : Except Fault σ} {s t : σ}

theorem assign_eq_ok_iff : assign x s = .ok () t ↔ x = .ok t := by
  cases x with
  | ok y =>
    constructor <;> intro h <;> cases h <;> rfl
  | error e => exact ⟨nofun, nofun⟩

theorem eq_of_assign_eq_error {e : Fault} (h : assign x s = .error e t) : t = s := by
  cases x with
  | ok y => exact nomatch h
  | error e =>
    cases h
    rfl

end Attempt

namespace Configuration

open Attempt

variable {c d : Configuration} {call : Call}

/-- Numerical aquifers are replaced only by those that a builder handed over. -/
def Call.Sound (call : Call) : Prop := ∀ r, call = .replaceNumerical r → r.Built

theorem Built.step (hc : c.Built) (hcall : call.Sound) (h : call.step c = .ok () d) : d.Built := by
  cases call with
  | ofDeck => exact .ofDeck (assign_eq_ok_iff.mp h)
  | loadInflux => exact hc.loadInflux (assign_eq_ok_iff.mp h)
  | replaceNumerical r =>
    cases h
    exact hc.replaceNumerical (hcall r rfl)
  | addFetkovich a =>
    cases h
    exact hc.addFetkovich a
  | addCarterTracy a =>
    cases h
    exact hc.addCarterTracy a
  | addConstantFlux a =>
    cases h
    exact hc.addConstantFlux a
  | schedule r =>
    obtain ⟨q, hq, rfl⟩ := Except.map_eq_ok_iff.mp (assign_eq_ok_iff.mp h)
    obtain ⟨a, -, rfl⟩ := Except.map_eq_ok_iff.mp hq
    exact hc.addConstantFlux a

theorem eq_of_step_eq_error {e : Fault} (h : call.step c = .error e d) : d = c := by
  cases call with
  | ofDeck => exact eq_of_assign_eq_error h
  | loadInflux => exact eq_of_assign_eq_error h
  | schedule => exact eq_of_assign_eq_error h
  | replaceNumerical => exact nomatch h
  | addFetkovich => exact nomatch h
  | addCarterTracy => exact nomatch h
  | addConstantFlux => exact nomatch h

theorem after_concat (calls : List Call) (call : Call) :
    after (calls ++ [call]) = call.step.leaves (after calls) :=
  List.foldl_concat _ _ _ _

theorem built_after {calls : List Call} (h : ∀ call ∈ calls, call.Sound) : (after calls).Built := by
  induction calls using List.reverseRecOn with
  | nil => exact .empty
  | append_singleton calls call ih =>
    rw [List.forall_mem_append, List.forall_mem_singleton] at h
    rw [after_concat, leaves]
    split
    · rename_i hstep
      exact (ih h.1).step h.2 hstep
    · rename_i hstep
      exact eq_of_step_eq_error hstep ▸ ih h.1

/-- After any calls, a configuration keeps everything under the number of its aquifer and uses no
grid cell twice, and a call that fails leaves it as it was. -/
theorem consistent_after (calls : List Call) :
    ((∀ call ∈ calls, call.Sound) → (after calls).Consistent) ∧
      ∀ call e c, Call.step call (after calls) = .error e c → c = after calls :=
  ⟨fun h ↦ (built_after h).consistent, fun _ _ _ ↦ eq_of_step_eq_error⟩

def mixedCalls (r : Registry) : List Call :=
  [.ofDeck Registry.twinDeck .block Registry.blockProperties none none,
    .loadInflux Influx.overlappingDeck .block, .replaceNumerical r]

def facelessDeck : Deck := .ofRows .metric [(.aquancon, [.claim 7 ⟨1, 1, 1⟩ ⟨1, 1, 1⟩ "Q"])]

theorem consistent_after_mixed : ∃ r, (after (mixedCalls r)).Consistent ∧
    (after (mixedCalls r)).numerical.aquifers.keys = [1, 2] ∧
      (after (mixedCalls r)).influx.cells.keys = [7, 8] ∧
      ∃ e, (Call.loadInflux facelessDeck .block).step (after (mixedCalls r)) =
        .error e (after (mixedCalls r)) := by
  obtain ⟨r, hr, hkeys⟩ : ∃ r,
      (Registry.ofDeck Registry.twinDeck .block Registry.blockProperties none).result = .ok r ∧
        r.aquifers.keys = [1, 2] := ⟨_, rfl, rfl⟩
  have hcalls : ∀ call ∈ mixedCalls r, call.Sound := by
    rw [mixedCalls, List.forall_mem_cons, List.forall_mem_cons, List.forall_mem_singleton]
    refine ⟨nofun, nofun, fun s hs ↦ ?_⟩
    cases hs
    exact Registry.built_of_ofDeck hr
  obtain ⟨hconsistent, hkept⟩ := consistent_after (mixedCalls r)
  obtain ⟨e, c, hfail⟩ :
      ∃ e c, (Call.loadInflux facelessDeck .block).step (after (mixedCalls r)) = .error e c :=
    ⟨_, _, rfl⟩
  obtain rfl := hkept _ e c hfail
  exact ⟨r, hconsistent hcalls, hkeys, rfl, e, hfail⟩

end Configuration

end Aquifer
