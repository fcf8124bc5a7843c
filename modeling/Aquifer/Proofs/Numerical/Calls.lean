import Aquifer.Proofs.Numerical.Parts
import Mathlib.Data.List.DropRight

namespace Aquifer

namespace Builder

structure Intake where
  cells : List StorageCell := []
  couplings : List Coupling := []

namespace Intake

def ids (x : Intake) : List Int := (x.cells.map (·.aquifer)).eraseDups

def admitted (x : Intake) (ys : List Coupling) : List Coupling :=
  ys.filter (!Registry.endsAtOwn x.cells ·)

def aquifers (x : Intake) : List (Int × NumericalAquifer) :=
  x.ids.map fun id ↦
    (id, ⟨id, x.cells.filter (·.aquifer = id), x.couplings.filter (·.aquifer = id)⟩)

def take (x : Intake) : Call → Intake
  | .addCell c =>
    if c.index ∈ x.cells.map (·.index) then x else { x with cells := x.cells ++ [c] }
  | .attach y => { x with couplings := x.couplings ++ x.admitted [y] }
  | .attachAll cs => { x with couplings := x.couplings ++ x.admitted (offered cs x.ids) }
  | .finalize => {}

def answer (x : Intake) : Call → Answer
  | .addCell c => .done <| (x.cells.find? (·.index = c.index)).map fun o ↦
      ⟨c.aquifer, some c.place.oneBased, .cellTaken o.aquifer⟩
  | .attach y => .attached (!Registry.endsAtOwn x.cells y)
  | .attachAll cs => .done (uncoupled cs x.ids)
  | .finalize => .aquifers ⟨Keyed.ofList x.aquifers⟩

def after (calls : List Call) : Intake := calls.foldl take {}

end Intake

/-- The builder keeps an intake: the cells under the numbers of their aquifers and under their own,
the couplings under those of their aquifers, with a list for every aquifer that has cells. -/
structure Keeps (b : Builder) (x : Intake) : Prop extends Gathers b x.cells where
  couplings : ∀ id, (b.couplings.get? id).getD [] = x.couplings.filter (·.aquifer = id)
  listed : ∀ id ∈ b.cells.keys, id ∈ b.couplings.keys

variable {b : Builder} {x : Intake}

theorem keeps_empty : Keeps ∅ {} := ⟨gathers_empty, fun _ ↦ rfl, fun _ h ↦ nomatch h⟩

theorem Keeps.keys (h : b.Keeps x) : b.cells.keys = x.ids := by
  rw [h.cells, Keyed.keys_group, Intake.ids]

theorem Keeps.foreign (h : b.Keeps x) (ys : List Coupling) : b.foreign ys = x.admitted ys := by
  have howns : b.owns = Registry.endsAtOwn x.cells :=
    funext (Registry.owns_eq_endsAtOwn h.toGathers)
  rw [Builder.foreign, howns, Intake.admitted]

theorem Keeps.couple (h : b.Keeps x) (ys : List Coupling) :
    (b.couple ys).Keeps { x with couplings := x.couplings ++ ys } where
  toGathers := ⟨h.cells, h.owner⟩
  couplings id := by rw [Builder.couple, Keyed.getD_pushAll, h.couplings, List.filter_append]
  listed id hid := Keyed.mem_keys_pushAll (h.listed id hid) ys

/-- The owner of a cell number is the cell that was accepted with it. -/
theorem Gathers.get?_owner {xs : List StorageCell} (h : b.Gathers xs) (n : Int) :
    b.owner.get? n = xs.find? (·.index = n) := by
  rw [Keyed.get?, h.owner, Keyed.lookup_map_key]

theorem Keeps.addCell {c : StorageCell} {d : Builder} (h : b.Keeps x) (hd : b.addCell c = .ok d) :
    d.Keeps { x with cells := x.cells ++ [c] } := by
  refine ⟨h.toGathers.addCell hd, ?_, ?_⟩
  all_goals obtain ⟨-, rfl⟩ := addCell_eq_ok_iff.mp hd
  · intro id
    rw [Keyed.getD_ensured, h.couplings]
  · intro id hid
    rw [Keyed.mem_keys_ensured]
    exact ((Keyed.mem_keys_insert _ _ _ _).mp hid).imp_left (h.listed id)

theorem Keeps.entries_registry (h : b.Keeps x) : b.registry.aquifers.entries = x.aquifers := by
  show b.cells.entries.map _ = _
  rw [h.cells, Keyed.entries_group, List.map_map, Intake.aquifers, Intake.ids]
  refine List.map_congr_left fun id _ ↦ ?_
  dsimp only [Function.comp_apply]
  rw [h.couplings]

/-- Every list of couplings that is looked up is there. -/
theorem Keeps.handOver (h : b.Keeps x) : b.handOver = .ok b.registry := by
  have hlookUp : b.cells.entries.mapM b.lookUp = .ok b.registry.aquifers.entries := by
    refine Except.mapM_eq_ok_map fun e he ↦ ?_
    have hkey : e.1 ∈ b.couplings.keys := h.listed e.1 (List.mem_map_of_mem he)
    obtain ⟨ys, hys⟩ := Option.isSome_iff_exists.mp (Keyed.mem_keys_iff.mp hkey)
    simp only [lookUp, hys, Option.getD_some]
  rw [Builder.handOver, hlookUp, Except.ok_bind, Keyed.ofList_entries]
  rfl

/-- Each call is answered from the intake, and leaves the builder with the intake after it. -/
theorem Keeps.step (h : b.Keeps x) (call : Call) :
    ∃ d, call.step b = .ok (d, x.answer call) ∧ d.Keeps (x.take call) := by
  cases call with
  | addCell c =>
    have howner := h.get?_owner c.index
    rw [Call.step, Intake.answer, Intake.take, ← howner, ← h.owner_keys]
    by_cases hnew : c.index ∈ b.owner.keys
    · obtain ⟨o, ho⟩ := Option.isSome_iff_exists.mp (Keyed.mem_keys_iff.mp hnew)
      rw [Builder.addCell, ho, if_pos hnew]
      exact ⟨b, rfl, h⟩
    · have hadd := addCell_eq_ok_iff.mpr ⟨hnew, rfl⟩
      rw [hadd, Keyed.get?_eq_none_iff.mpr hnew, if_neg hnew]
      exact ⟨_, rfl, h.addCell hadd⟩
  | attach y =>
    have howns : b.owns y = Registry.endsAtOwn x.cells y := Registry.owns_eq_endsAtOwn h.toGathers y
    have hattach : (b.attach y).result = .ok (b.couple (x.admitted [y]), !b.owns y) := by
      rw [← h.foreign, Builder.attach, Builder.foreign, List.filter_singleton]
      cases b.owns y <;> rfl
    refine ⟨b.couple (x.admitted [y]), ?_, h.couple _⟩
    rw [Call.step, hattach, howns]
    rfl
  | attachAll cs =>
    refine ⟨b.couple (x.admitted (offered cs x.ids)), ?_, h.couple _⟩
    rw [Call.step, attachAll, result_attachAquifers, h.keys, h.foreign]
    rfl
  | finalize =>
    refine ⟨∅, ?_, keeps_empty⟩
    rw [Call.step, h.handOver, Intake.answer, ← h.entries_registry, Keyed.ofList_entries]
    rfl

theorem run_concat (calls : List Call) (call : Call) :
    run (calls ++ [call]) = run calls >>= fun b ↦ (call.step b).map Prod.fst := by
  rw [run, run, List.foldlM_append]
  simp only [List.foldlM_cons, List.foldlM_nil, bind_pure]

theorem Intake.after_concat (calls : List Call) (call : Call) :
    after (calls ++ [call]) = (after calls).take call :=
  List.foldl_concat _ _ _ _

/-- Calls never fail, whatever they are, and the builder keeps the intake after them. -/
theorem exists_run (calls : List Call) : ∃ b, run calls = .ok b ∧ b.Keeps (Intake.after calls) := by
  induction calls using List.reverseRecOn with
  | nil => exact ⟨∅, rfl, keeps_empty⟩
  | append_singleton calls call ih =>
    obtain ⟨b, hb, hkeeps⟩ := ih
    obtain ⟨d, hd, hkeeps⟩ := hkeeps.step call
    refine ⟨d, ?_, Intake.after_concat calls call ▸ hkeeps⟩
    rw [run_concat, hb, Except.ok_bind, hd]
    rfl

section TwoPhase

inductive Phase where
  | cells
  | couplings
  | over
  deriving DecidableEq

def Call.phase : Call → Phase
  | .addCell _ => .cells
  | .attach _ | .attachAll _ => .couplings
  | .finalize => .over

def sinceFinalize (calls : List Call) : List Call := calls.rtakeWhile (·.phase ≠ .over)

/-- Since the aquifers were last handed over, no cell was added after couplings. -/
def TwoPhase (calls : List Call) : Prop :=
  (sinceFinalize calls).Pairwise fun call later ↦ call.phase = .couplings → later.phase ≠ .cells

instance (calls : List Call) : Decidable (TwoPhase calls) :=
  inferInstanceAs (Decidable (List.Pairwise _ (sinceFinalize calls)))

theorem sinceFinalize_concat (calls : List Call) (call : Call) : sinceFinalize (calls ++ [call]) =
    if call.phase = .over then [] else sinceFinalize calls ++ [call] := by
  rw [sinceFinalize, List.rtakeWhile_concat]
  by_cases h : call.phase = .over <;> simp [h, sinceFinalize]

theorem couplings_after_eq_nil {calls : List Call}
    (h : ∀ call ∈ sinceFinalize calls, call.phase ≠ .couplings) :
    (Intake.after calls).couplings = [] := by
  induction calls using List.reverseRecOn with
  | nil => rfl
  | append_singleton calls call ih =>
    rw [sinceFinalize_concat] at h
    rw [Intake.after_concat]
    cases call with
    | addCell c =>
      have hcouplings : (Intake.after calls).couplings = [] :=
        ih fun call hcall ↦ h call (List.mem_append_left _ hcall)
      rw [Intake.take]
      split
      · exact hcouplings
      · exact hcouplings
    | attach y => exact absurd rfl (h _ (List.mem_append_right _ (List.mem_singleton_self _)))
    | attachAll cs => exact absurd rfl (h _ (List.mem_append_right _ (List.mem_singleton_self _)))
    | finalize => rfl

/-- Couplings that come after all cells do not end at cells of their own aquifer. -/
theorem foreign_of_twoPhase {calls : List Call} (h : TwoPhase calls) :
    ∀ y ∈ (Intake.after calls).couplings,
      Registry.endsAtOwn (Intake.after calls).cells y = false := by
  have hadmit : ∀ (x : Intake) (ys : List Coupling),
      (∀ y ∈ x.couplings, Registry.endsAtOwn x.cells y = false) →
      ∀ y ∈ x.couplings ++ x.admitted ys, Registry.endsAtOwn x.cells y = false := by
    intro x ys hx y hy
    rcases List.mem_append.mp hy with hy | hy
    · exact hx y hy
    · simpa using (List.mem_filter.mp hy).2
  induction calls using List.reverseRecOn with
  | nil => exact fun _ hy ↦ nomatch hy
  | append_singleton calls call ih =>
    rw [TwoPhase, sinceFinalize_concat] at h
    rw [Intake.after_concat]
    cases call with
    | addCell c =>
      -- Before a cell only cells were added, so there is no coupling that it could make an own one.
      obtain ⟨-, -, hbefore⟩ := List.pairwise_append.mp h
      have hnone : (Intake.after calls).couplings = [] := by
        refine couplings_after_eq_nil fun call hcall hphase ↦ ?_
        exact hbefore call hcall _ (List.mem_singleton_self _) hphase rfl
      have hcouplings : ((Intake.after calls).take (.addCell c)).couplings = [] := by
        rw [Intake.take]
        split
        · exact hnone
        · exact hnone
      rw [hcouplings]
      exact fun _ hy ↦ nomatch hy
    | attach y => exact hadmit _ [y] (ih (List.pairwise_append.mp h).1)
    | attachAll cs => exact hadmit _ _ (ih (List.pairwise_append.mp h).1)
    | finalize => exact fun _ hy ↦ nomatch hy

end TwoPhase

/-- The maps of a builder fit together: the owners of cell numbers are the cells in the lists, no
number is in two places, every list is that of its aquifer's cells, and every aquifer that has cells
has a list of couplings. -/
structure Sound (b : Builder) : Prop where
  owned : b.owner.entries.Perm (b.cells.values.flatten.map fun c ↦ (c.index, c))
  distinct : (b.cells.values.flatten.map (·.index)).Nodup
  filed : ∀ e ∈ b.cells.entries, e.2 ≠ [] ∧ ∀ c ∈ e.2, c.aquifer = e.1
  listed : ∀ id ∈ b.cells.keys, id ∈ b.couplings.keys

theorem Keeps.sound (h : b.Keeps x) : b.Sound where
  owned := by
    rw [h.owner, h.cells]
    exact (Keyed.flatten_values_group_perm _ x.cells).symm.map _
  distinct := by
    have hperm : b.cells.values.flatten.Perm x.cells := by
      rw [h.cells]
      exact Keyed.flatten_values_group_perm _ x.cells
    rw [(hperm.map _).nodup_iff, ← h.owner_keys]
    exact b.owner.nodup_keys
  filed := by
    rw [h.cells]
    intro e he
    refine ⟨Keyed.ne_nil_of_mem_group e he, fun c hc ↦ ?_⟩
    rw [Keyed.entries_group] at he
    obtain ⟨id, -, rfl⟩ := List.mem_map.mp he
    exact of_decide_eq_true (List.mem_filter.mp hc).2
  listed := h.listed

theorem Keeps.couplings_foreign (h : b.Keeps x)
    (hx : ∀ y ∈ x.couplings, Registry.endsAtOwn x.cells y = false) :
    ∀ a ∈ b.registry.toList, ∀ y ∈ a.couplings, ∀ c ∈ a.cells, c.index ≠ y.index := by
  intro a ha y hy c hc hindex
  rw [Registry.toList, Keyed.values, h.entries_registry, Intake.aquifers, List.map_map] at ha
  obtain ⟨id, -, rfl⟩ := List.mem_map.mp ha
  obtain ⟨hy, hyid⟩ := List.mem_filter.mp hy
  obtain ⟨hc, hcid⟩ := List.mem_filter.mp hc
  have hown : Registry.endsAtOwn x.cells y = true := by
    rw [Registry.endsAtOwn, List.any_eq_true]
    refine ⟨c, hc, ?_⟩
    rw [Bool.and_eq_true, beq_iff_eq, beq_iff_eq, of_decide_eq_true hyid, of_decide_eq_true hcid]
    exact ⟨hindex, rfl⟩
  rw [hx y hy] at hown
  exact Bool.false_ne_true hown

theorem step_addCell_eq_ok_iff {c : StorageCell} {i : Issue} {d : Builder} :
    (Call.addCell c).step b = .ok (d, .done (some i)) ↔ d = b ∧ ∃ o, b.owner.get? c.index = some o ∧
      i = ⟨c.aquifer, some c.place.oneBased, .cellTaken o.aquifer⟩ := by
  rw [Call.step, Builder.addCell]
  cases b.owner.get? c.index with
  | none =>
    simp
  | some o =>
    simp [eq_comm]

/-- Whatever calls were made on a builder, no call fails, its maps fit together, and each call is
answered from the cells and couplings that were accepted since the aquifers were last handed over.
A cell is refused just if its number has an owner, and then nothing changes. The aquifers that have
cells are handed over, each with what was accepted for it, and the builder starts over; none is
coupled to a cell of its own if no cell was added after couplings. -/
theorem run_sound (calls : List Call) : ∃ b, run calls = .ok b ∧ b.Sound ∧
    (∀ call : Call, ∃ d, call.step b = .ok (d, (Intake.after calls).answer call)) ∧
    (∀ c i d, (Call.addCell c).step b = .ok (d, .done (some i)) ↔
      d = b ∧ ∃ o, b.owner.get? c.index = some o ∧
        i = ⟨c.aquifer, some c.place.oneBased, .cellTaken o.aquifer⟩) ∧
    Call.finalize.step b = .ok (∅, .aquifers b.finalize.1) ∧
    b.finalize.1.aquifers.entries = (Intake.after calls).aquifers ∧
    (∀ more, run (calls ++ .finalize :: more) = run more) ∧
    (TwoPhase calls →
      ∀ a ∈ b.finalize.1.toList, ∀ y ∈ a.couplings, ∀ c ∈ a.cells, c.index ≠ y.index) := by
  obtain ⟨b, hb, hkeeps⟩ := exists_run calls
  have hfinalize : Call.finalize.step b = .ok (∅, .aquifers b.finalize.1) := by
    rw [Call.step, hkeeps.handOver]
    rfl
  refine ⟨b, hb, hkeeps.sound, fun call ↦ ?_, fun c i d ↦ step_addCell_eq_ok_iff, hfinalize,
    hkeeps.entries_registry, fun more ↦ ?_, fun htwo ↦ ?_⟩
  · obtain ⟨d, hd, -⟩ := hkeeps.step call
    exact ⟨d, hd⟩
  · rw [run, List.foldlM_append]
    show run calls >>= _ = _
    rw [hb, Except.ok_bind, List.foldlM_cons, hfinalize]
    rfl
  · exact hkeeps.couplings_foreign (foreign_of_twoPhase htwo)

def storedCell : StorageCell := ⟨5, ⟨0, 1, 2⟩, 9, ⟨1⟩, ⟨2⟩, ⟨3⟩, ⟨4⟩, ⟨5⟩, 1, 1, none⟩

def ownCoupling : Coupling := ⟨5, ⟨0, 1, 2⟩, 9, ⟨.x, true⟩, ⟨1⟩, 0, false, ⟨1⟩, ⟨1⟩⟩

def outerCoupling : Coupling := { ownCoupling with place := ⟨0, 0, 0⟩, index := 0 }

def twoBuilds : List Call :=
  [.attach ownCoupling, .addCell storedCell, .finalize, .addCell storedCell,
    .attach ownCoupling, .attachAll ⟨⟨[(5, ⟨[(9, ownCoupling), (0, outerCoupling)], by decide⟩)],
      by decide⟩⟩]

theorem run_sound_twoBuilds : TwoPhase twoBuilds ∧ ∃ b, run twoBuilds = .ok b ∧
    (Call.addCell { storedCell with aquifer := 4 }).step b =
      .ok (b, .done (some ⟨4, some ⟨1, 2, 3⟩, .cellTaken 5⟩)) ∧
    b.finalize.1.aquifers.entries = [(5, ⟨5, [storedCell], [outerCoupling]⟩)] ∧
    ∀ a ∈ b.finalize.1.toList, ∀ y ∈ a.couplings, ∀ c ∈ a.cells, c.index ≠ y.index := by
  have htwo : TwoPhase twoBuilds := by decide
  obtain ⟨b, hb, -, -, hrefused, -, hentries, -, hforeign⟩ := run_sound twoBuilds
  have howner : b.owner.get? 9 = some storedCell := by
    cases hb
    rfl
  exact ⟨htwo, b, hb, (hrefused _ _ b).mpr ⟨rfl, storedCell, howner, rfl⟩, hentries,
    hforeign htwo⟩

/-- A cell that comes after a coupling to it makes that one a coupling to a cell of its own. -/
example : (Intake.after (twoBuilds.take 2)).aquifers = [(5, ⟨5, [storedCell], [ownCoupling]⟩)] :=
  rfl

end Builder

end Aquifer
