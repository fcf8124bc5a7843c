import Aquifer.Proofs.Numerical.Registry

namespace Aquifer

theorem Keyed.mapValues_congr {κ α β : Type} {m : Keyed κ α} {f h : κ → α → β}
    (hm : ∀ e ∈ m.entries, f e.1 e.2 = h e.1 e.2) : m.mapValues f = m.mapValues h := by
  apply Keyed.ext
  exact List.map_congr_left fun e he ↦ by rw [hm e he]

variable {g : Grid} {p : Properties} {rec : Record} {c : StorageCell}

namespace StorageCell

structure Stands (g : Grid) (c : StorageCell) : Prop where
  active : g.Active c.place
  numbers : g.dims.Numbers c.place c.index

theorem storage_of_ofRecord (h : ofRecord g p rec = .ok c) :
    rec.storage = .ok (c.aquifer, c.place) := by
  simp only [ofRecord, Except.bind_eq_ok_iff] at h
  obtain ⟨i, hi, j, hj, k, hk, _, -, _, -, _, -, _, -, _, -, _, -, _, -, id, hid, _, -, _, -, _, -,
    h⟩ := h
  cases Except.ok.inj h
  rw [Record.storage, hid, hi, hj, hk]
  rfl

theorem stands_of_usableCell (h : Builder.usableCell g p rec = .ok c) : c.Stands g := by
  obtain ⟨hcheck, hc⟩ := Builder.usableCell_eq_ok_iff.mp h
  have hstorage := storage_of_ofRecord hc
  exact ⟨(Builder.check_eq_ok_iff hstorage).mp hcheck, (place_of_ofRecord hstorage hc).2⟩

end StorageCell

namespace Registry

def endsAtOwn (xs : List StorageCell) (y : Coupling) : Bool :=
  xs.any fun c ↦ c.index == y.index && c.aquifer == y.aquifer

def ofParts (xs : List StorageCell) (ys : List Coupling) : Registry :=
  ⟨(Keyed.group (·.aquifer) xs).mapValues fun id cells ↦
    ⟨id, cells, ys.filter fun y ↦ decide (y.aquifer = id) && !endsAtOwn xs y⟩⟩

/-- Cells and couplings that can be put together: no two cells have the same number, no cell is
coupled to an aquifer twice, and every aquifer with a cell has a coupling. -/
structure Complete (xs : List StorageCell) (ys : List Coupling) : Prop where
  cells : (xs.map (·.index)).Nodup
  couplings : (ys.map Couplings.key).Nodup
  coupled : ∀ c ∈ xs, ∃ y ∈ ys, y.aquifer = c.aquifer

variable {d : Deck} {override : Option ActiveMap} {b : Builder} {xs : List StorageCell}
  {ys : List Coupling} {r : Registry}

theorem owns_eq_endsAtOwn (hb : b.Gathers xs) (y : Coupling) : b.owns y = endsAtOwn xs y := by
  rw [Bool.eq_iff_iff, hb.owns_iff, endsAtOwn, List.any_eq_true]
  simp only [Bool.and_eq_true, beq_iff_eq]

theorem registry_couple (hb : b.Holds xs) (ys : List Coupling) :
    (b.couple (b.foreign (b.cells.keys.flatMap fun id ↦ ys.filter (·.aquifer = id)))).registry =
      ofParts xs ys := by
  have howns : b.owns = endsAtOwn xs := funext (owns_eq_endsAtOwn hb.toGathers)
  rw [ofParts, ← hb.cells, ← howns]
  refine congrArg Registry.mk (Keyed.mapValues_congr fun e he ↦ ?_)
  have hid : e.1 ∈ b.cells.keys := List.mem_map_of_mem he
  rw [getD_couplings hb ys b.cells.nodup_keys hid]

theorem coupled_iff (hb : b.Holds xs) :
    (∀ id ∈ b.cells.keys, ∃ y ∈ ys, y.aquifer = id) ↔
      ∀ c ∈ xs, ∃ y ∈ ys, y.aquifer = c.aquifer := by
  rw [hb.cells, Keyed.keys_group]
  simp only [List.mem_eraseDups, List.forall_mem_map]

/-- A deck that declares cells makes a registry just if all its cells can be used, all its couplings
can be generated, and both can be put together. -/
theorem result_ofDeck_eq_ok_iff (h : d.has "AQUNUM" = true) :
    (ofDeck d g p override).result = .ok r ↔ ∃ xs css,
      (d.records "AQUNUM").mapM (Builder.usableCell g p) = .ok xs ∧
      (d.records "AQUCON").mapM (Coupling.ofRecord g override) = .ok css ∧
      Complete xs css.flatten ∧ r = ofParts xs css.flatten := by
  rw [result_ofDeck_of_has h]
  simp only [Except.bind_eq_ok_iff, Couplings.result_ofDeck_eq_ok_iff, Builder.ofRecords_eq_ok_iff,
    Builder.attachAll]
  constructor
  · rintro ⟨b, ⟨xs, hxs, hb⟩, cs, ⟨css, hcss, hcs⟩, attached, hattached, hr⟩
    obtain ⟨hcells, hholds⟩ := Builder.holds_of_addCells hb
    obtain ⟨hkeys, hcouplings⟩ := Couplings.holds_of_addAll hcs
    by_cases hids : ∀ id ∈ b.cells.keys, ∃ y ∈ css.flatten, y.aquifer = id
    · rw [Builder.result_attachAquifers_of_coupled hcouplings hids] at hattached
      cases hattached
      cases hr
      exact ⟨xs, css, hxs, hcss, ⟨hcells, hkeys, (coupled_iff hholds).mp hids⟩,
        registry_couple hholds _⟩
    · obtain ⟨b', i, hi⟩ := Builder.result_attachAquifers_error hcouplings hids b
      rw [hi] at hattached
      cases hattached
      cases hr
  · rintro ⟨xs, css, hxs, hcss, ⟨hcells, hkeys, hcoupled⟩, rfl⟩
    obtain ⟨b, hb, hholds⟩ := Builder.exists_addCells hcells
    obtain ⟨cs, hcs, hcouplings⟩ := Couplings.exists_addAll hkeys
    have hids := (coupled_iff hholds).mpr hcoupled
    refine ⟨b, ⟨xs, hxs, hb⟩, cs, ⟨css, hcss, hcs⟩, _,
      Builder.result_attachAquifers_of_coupled hcouplings hids b, ?_⟩
    rw [handedOver, registry_couple hholds]

theorem cells_ofParts_perm (xs : List StorageCell) (ys : List Coupling) :
    (ofParts xs ys).cells.Perm xs := by
  rw [ofParts, cells_mapValues fun _ _ ↦ rfl]
  exact Keyed.flatten_values_group_perm _ xs

/-- The cells of a registry that a deck makes are different active cells of the grid. -/
theorem stands_of_ofDeck (h : (ofDeck d g p override).result = .ok r) :
    (r.cells.map (·.index)).Nodup ∧ ∀ c ∈ r.cells, c.Stands g := by
  cases hhas : d.has "AQUNUM" with
  | false =>
    rw [result_ofDeck_of_not_has hhas] at h
    cases h
    exact ⟨List.nodup_nil, List.forall_mem_nil _⟩
  | true =>
    obtain ⟨xs, css, hxs, -, hcomplete, rfl⟩ := (result_ofDeck_eq_ok_iff hhas).mp h
    have hperm := cells_ofParts_perm xs css.flatten
    refine ⟨(hperm.map _).nodup_iff.mpr hcomplete.cells, fun c hc ↦ ?_⟩
    obtain ⟨rec, -, hrec⟩ := (Except.exists_of_mem_mapM hxs).2 c (hperm.mem_iff.mp hc)
    exact StorageCell.stands_of_usableCell hrec

end Registry

end Aquifer
