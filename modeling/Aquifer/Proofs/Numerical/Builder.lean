import Aquifer.Proofs.Numerical.Cell
import Aquifer.Proofs.Numerical.Coupling
import Mathlib.Data.List.TakeWhile

namespace Aquifer

namespace Builder

structure Gathers (b : Builder) (xs : List StorageCell) : Prop where
  cells : b.cells = Keyed.group (·.aquifer) xs
  owner : b.owner.entries = xs.map fun c ↦ (c.index, c)

structure Holds (b : Builder) (xs : List StorageCell) : Prop extends Gathers b xs where
  couplings : ∀ id, (b.couplings.get? id).getD [] = []

variable {b d : Builder} {xs : List StorageCell} {c : StorageCell}

theorem gathers_empty : Gathers ∅ [] := ⟨rfl, rfl⟩

theorem holds_empty : Holds ∅ [] := ⟨gathers_empty, fun _ ↦ rfl⟩

theorem Gathers.owner_keys (h : b.Gathers xs) : b.owner.keys = xs.map (·.index) := by
  rw [Keyed.keys, h.owner, List.map_map]
  rfl

/-- A cell is accepted if its number is new. -/
theorem addCell_eq_ok_iff : b.addCell c = .ok d ↔ c.index ∉ b.owner.keys ∧
    d = ⟨b.cells.push c.aquifer c, if b.couplings.contains c.aquifer then b.couplings
      else b.couplings.insert c.aquifer [], b.owner.insert c.index c⟩ := by
  rw [← Keyed.get?_eq_none_iff, Builder.addCell]
  cases b.owner.get? c.index with
  | none => exact ⟨fun h ↦ ⟨rfl, (Except.ok.inj h).symm⟩, fun h ↦ congrArg Except.ok h.2.symm⟩
  | some o => exact ⟨nofun, nofun⟩

theorem Gathers.addCell (h : b.Gathers xs) (hc : b.addCell c = .ok d) : d.Gathers (xs ++ [c]) := by
  obtain ⟨hnew, rfl⟩ := addCell_eq_ok_iff.mp hc
  constructor
  · rw [Keyed.group_concat, ← h.cells]
  · rw [Keyed.entries_insert_of_not_mem hnew, h.owner, List.map_append]
    rfl

theorem Holds.addCell (h : b.Holds xs) (hc : c.index ∉ xs.map (·.index)) :
    ∃ d, b.addCell c = .ok d ∧ d.Holds (xs ++ [c]) := by
  rw [← h.owner_keys] at hc
  have hadd := addCell_eq_ok_iff.mpr ⟨hc, rfl⟩
  refine ⟨_, hadd, h.toGathers.addCell hadd, fun id ↦ ?_⟩
  rw [Keyed.getD_ensured, h.couplings]

theorem Gathers.addCell_error (h : b.Gathers xs) {o : StorageCell} (ho : o ∈ xs)
    (hindex : o.index = c.index) :
    b.addCell c = .error ⟨c.aquifer, some c.place.oneBased, .cellTaken o.aquifer⟩ := by
  have hmem : (o.index, o) ∈ b.owner.entries := h.owner ▸ List.mem_map_of_mem ho
  rw [Builder.addCell, ← hindex, Keyed.get?_of_mem hmem]

theorem Holds.addCell_fails (h : b.Holds xs) (hc : c.index ∈ xs.map (·.index)) :
    ∃ i, b.addCell c = .error i := by
  obtain ⟨o, ho, hindex⟩ := List.mem_map.mp hc
  exact ⟨_, h.addCell_error ho hindex⟩

def addCells (b : Builder) (xs : List StorageCell) : Except Fault Builder :=
  xs.foldlM (fun b c ↦ (b.addCell c).mapError .issue) b

theorem exists_addCells (h : (xs.map (·.index)).Nodup) : ∃ b, addCells ∅ xs = .ok b ∧ b.Holds xs :=
  Except.foldlM_of_nodup (fun _ _ _ ↦ Holds.addCell) holds_empty h

theorem holds_of_addCells (h : addCells ∅ xs = .ok b) : (xs.map (·.index)).Nodup ∧ b.Holds xs :=
  Except.nodup_of_foldlM_eq_ok (f := addCell) (I := Holds) (fun _ _ _ ↦ Holds.addCell)
    (fun _ _ _ ↦ Holds.addCell_fails) holds_empty h

variable {g : Grid} {p : Properties} {rs : List Record} {es : List (Int × Coord)}

def usableCell (g : Grid) (p : Properties) (r : Record) : Except Fault StorageCell := do
  check g r
  StorageCell.ofRecord g p r

theorem ofRecords_eq_ok_iff : ofRecords g p rs = .ok b ↔
    ∃ cells, rs.mapM (usableCell g p) = .ok cells ∧ addCells ∅ cells = .ok b := by
  have hstep : addRecord g p = fun d r ↦
      usableCell g p r >>= fun c ↦ (d.addCell c).mapError .issue := by
    funext d r
    rw [addRecord, usableCell]
    cases check g r <;> rfl
  rw [ofRecords, hstep, Except.foldlM_bind_eq_ok_iff]
  rfl

theorem usableCell_eq_ok_iff {r : Record} :
    usableCell g p r = .ok c ↔ check g r = .ok () ∧ StorageCell.ofRecord g p r = .ok c := by
  rw [usableCell, Except.bind_eq_ok_iff]
  exact ⟨fun ⟨_, hcheck, hc⟩ ↦ ⟨hcheck, hc⟩, fun ⟨hcheck, hc⟩ ↦ ⟨(), hcheck, hc⟩⟩

theorem mapM_ofRecord (h : rs.mapM (usableCell g p) = .ok xs) :
    rs.mapM (StorageCell.ofRecord g p) = .ok xs := by
  rw [Except.mapM_eq_ok_iff] at h ⊢
  exact h.imp fun _ _ hc ↦ (usableCell_eq_ok_iff.mp hc).2

/-- The cells of records stand at the places that the records declare, with the places' numbers. -/
theorem places_of_mapM (hs : rs.mapM Record.storage = .ok es)
    (hc : rs.mapM (StorageCell.ofRecord g p) = .ok xs) :
    xs.map (fun c ↦ (c.aquifer, c.place)) = es ∧ ∀ c ∈ xs, g.dims.Numbers c.place c.index := by
  rw [Except.mapM_eq_ok_iff] at hs hc
  induction hs generalizing xs with
  | nil =>
    cases hc
    exact ⟨rfl, List.forall_mem_nil _⟩
  | cons he _ ih =>
    obtain ⟨c, cs, hcell, hcs, rfl⟩ := List.forall₂_cons_left_iff.mp hc
    obtain ⟨hes, hplaces⟩ := ih hcs
    obtain ⟨hplace, hnumbers⟩ := StorageCell.place_of_ofRecord he hcell
    exact ⟨by rw [List.map_cons, hplace, hes], List.forall_mem_cons.mpr ⟨hnumbers, hplaces⟩⟩

theorem nodup_index_iff (hs : rs.mapM Record.storage = .ok es)
    (hc : rs.mapM (StorageCell.ofRecord g p) = .ok xs) :
    (xs.map (·.index)).Nodup ↔ (es.map Prod.snd).Nodup := by
  obtain ⟨hes, hplaces⟩ := places_of_mapM hs hc
  rw [← hes, List.map_map]
  exact nodup_map_iff fun c hc d hd ↦ (hplaces c hc).eq_iff (hplaces d hd)

theorem exists_ofRecords (hr : ∀ r ∈ rs, r.Conforms .aqunum) (hp : p.Fits g)
    (hporo : ∀ r ∈ rs, r.defaulted "PORO" = .ok true → p.hasReal "PORO" = true)
    (hs : rs.mapM Record.storage = .ok es) (hactive : ∀ e ∈ es, g.Active e.2)
    (hnodup : (es.map Prod.snd).Nodup) : ∃ b, ofRecords g p rs = .ok b := by
  have husable : ∀ r ∈ rs, ∃ c, usableCell g p r = .ok c := by
    intro r hmem
    obtain ⟨e, he, hstorage⟩ := (Except.exists_of_mem_mapM hs).1 r hmem
    obtain ⟨c, hc⟩ := StorageCell.exists_ofRecord (hr r hmem) hp (hporo r hmem) hstorage
      (hactive e he)
    exact ⟨c, usableCell_eq_ok_iff.mpr ⟨(check_eq_ok_iff hstorage).mpr (hactive e he), hc⟩⟩
  obtain ⟨xs, hxs⟩ := Except.exists_mapM_eq_ok husable
  have hcells := mapM_ofRecord hxs
  obtain ⟨b, hb, -⟩ := exists_addCells ((nodup_index_iff hs hcells).mpr hnodup)
  exact ⟨b, ofRecords_eq_ok_iff.mpr ⟨xs, hxs, hb⟩⟩

theorem holds_of_ofRecords (hs : rs.mapM Record.storage = .ok es)
    (h : ofRecords g p rs = .ok b) :
    (∀ e ∈ es, g.Active e.2) ∧ (es.map Prod.snd).Nodup ∧
      ∃ xs, rs.mapM (StorageCell.ofRecord g p) = .ok xs ∧ b.Holds xs := by
  obtain ⟨xs, hxs, hb⟩ := ofRecords_eq_ok_iff.mp h
  have hcells := mapM_ofRecord hxs
  obtain ⟨hnodup, hholds⟩ := holds_of_addCells hb
  refine ⟨?_, (nodup_index_iff hs hcells).mp hnodup, xs, hcells, hholds⟩
  intro e he
  obtain ⟨r, hr, hstorage⟩ := (Except.exists_of_mem_mapM hs).2 e he
  obtain ⟨c, -, hc⟩ := (Except.exists_of_mem_mapM hxs).1 r hr
  exact (check_eq_ok_iff hstorage).mp (usableCell_eq_ok_iff.mp hc).1

section Attach

variable {cs : Couplings} {ys : List Coupling}

theorem Gathers.owns_iff (h : b.Gathers xs) (y : Coupling) :
    b.owns y = true ↔ ∃ c ∈ xs, c.index = y.index ∧ c.aquifer = y.aquifer := by
  rw [owns, Option.any_eq_true]
  simp only [beq_iff_eq]
  constructor
  · intro h
    obtain ⟨o, ho, hid⟩ := h
    have hmem := Keyed.mem_of_get? ho
    rw [h.owner] at hmem
    obtain ⟨c, hc, he⟩ := List.mem_map.mp hmem
    obtain ⟨hindex, rfl⟩ := Prod.mk.inj he
    exact ⟨c, hc, hindex, hid⟩
  · intro h
    obtain ⟨c, hc, hindex, hid⟩ := h
    have hmem : (c.index, c) ∈ b.owner.entries := h.owner ▸ List.mem_map_of_mem hc
    exact ⟨c, hindex ▸ Keyed.get?_of_mem hmem, hid⟩

def foreign (b : Builder) (ys : List Coupling) : List Coupling := ys.filter (!b.owns ·)

def couple (b : Builder) (ys : List Coupling) : Builder :=
  { b with couplings := b.couplings.pushAll (·.aquifer) ys }

theorem couple_couple (b : Builder) (ys zs : List Coupling) :
    (b.couple ys).couple zs = b.couple (ys ++ zs) := by
  rw [couple, couple, couple, Keyed.pushAll_append]

theorem result_attachList (b : Builder) (ys : List Coupling) :
    (b.attachList ys).result = .ok (b.couple (b.foreign ys)) := by
  induction ys generalizing b with
  | nil => rfl
  | cons y ys ih =>
    rw [attachList, List.foldlM_cons, Traced.result_bind, foreign, List.filter_cons, attach]
    cases hy : b.owns y
    · show ((b.couple [y]).attachList ys).result = _
      rw [ih, couple_couple]
      rfl
    · show (b.attachList ys).result = _
      rw [ih]
      rfl

def offered (cs : Couplings) (ids : List Int) : List Coupling :=
  (ids.takeWhile cs.has).flatMap fun id ↦ (cs.ofAquifer id).values

def uncoupled (cs : Couplings) (ids : List Int) : Option Issue :=
  (ids.find? (!cs.has ·)).map fun id ↦ ⟨id, none, .nothingDeclared "connections"⟩

theorem result_attachAquifers (cs : Couplings) (ids : List Int) (b : Builder) :
    (attachAquifers cs ids b).result =
      .ok (b.couple (b.foreign (offered cs ids)), uncoupled cs ids) := by
  induction ids generalizing b with
  | nil => rfl
  | cons id ids ih =>
    rw [attachAquifers, offered, uncoupled, List.takeWhile_cons, List.find?_cons, Couplings.get,
      Couplings.has, Keyed.contains]
    cases hget : cs.byAquifer.get? id with
    | none => rfl
    | some m =>
      have hvalues : (cs.ofAquifer id).values = m.values := by rw [Couplings.ofAquifer, hget]; rfl
      simp only [Traced.result_bind, result_attachList, Except.ok_bind, ih, couple_couple]
      rw [Option.isSome_some, if_pos rfl, List.flatMap_cons, hvalues, foreign, foreign, foreign,
        List.filter_append]
      rfl

theorem result_attachAquifers_of_coupled (h : cs.Holds ys) {ids : List Int}
    (hids : ∀ id ∈ ids, ∃ y ∈ ys, y.aquifer = id) (b : Builder) :
    (attachAquifers cs ids b).result =
      .ok (b.couple (b.foreign (ids.flatMap fun id ↦ ys.filter (·.aquifer = id))), none) := by
  have hhas : ∀ id ∈ ids, cs.has id = true := fun id hid ↦ (h.has_iff id).mpr (hids id hid)
  have hnone : ids.find? (!cs.has ·) = none := by
    rw [List.find?_eq_none]
    intro id hid
    rw [hhas id hid]
    exact Bool.false_ne_true
  rw [result_attachAquifers, offered, uncoupled, List.takeWhile_eq_self_iff.mpr hhas, hnone]
  simp only [h.values, Option.map_none]

theorem result_attachAquifers_error (h : cs.Holds ys) {ids : List Int}
    (hids : ¬∀ id ∈ ids, ∃ y ∈ ys, y.aquifer = id) (b : Builder) :
    ∃ d i, (attachAquifers cs ids b).result = .ok (d, some i) := by
  have hsome : ids.find? (!cs.has ·) ≠ none := by
    intro hnone
    refine hids fun id hid ↦ (h.has_iff id).mp ?_
    have hhas := List.find?_eq_none.mp hnone id hid
    rwa [Bool.not_eq_true', Bool.not_eq_false] at hhas
  obtain ⟨id, hid⟩ := Option.ne_none_iff_exists'.mp hsome
  rw [result_attachAquifers, uncoupled, hid]
  exact ⟨_, _, rfl⟩

end Attach

end Builder

end Aquifer
