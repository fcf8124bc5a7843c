import Aquifer.Proofs.Numerical.Mark
import Aquifer.Proofs.Numerical.Overwrite

namespace Aquifer

structure Deck.Reordered (d e : Deck) : Prop where
  declares : d.has "AQUNUM" = e.has "AQUNUM"
  storage : (d.records "AQUNUM").Perm (e.records "AQUNUM")
  couplings : (d.records "AQUCON").Perm (e.records "AQUCON")

theorem Deck.Reordered.symm {d e : Deck} (h : d.Reordered e) : e.Reordered d :=
  ⟨h.declares.symm, h.storage.symm, h.couplings.symm⟩

def Mark.table (g : Grid) (override : Option ActiveMap) (cs : List StorageCell) :
    Option (Axis → List Int) :=
  (ofCells g override cs).toOption.map fun marks a ↦ along a marks

variable {g : Grid} {cs es : List StorageCell}

namespace Mark

theorem ofCells_perm {override : Option ActiveMap} {marks : List Mark} (h : cs.Perm es)
    (hmarks : ofCells g override cs = .ok marks) :
    ∃ marks', ofCells g override es = .ok marks' ∧ marks.Perm marks' := by
  obtain ⟨xss, hxss, hok⟩ := Except.bind_eq_ok_iff.mp hmarks
  obtain ⟨yss, hyss, hperm⟩ := Except.mapM_perm h hxss
  cases hok
  refine ⟨yss.flatten, ?_, hperm.flatten⟩
  rw [ofCells, hyss]
  rfl

/-- The marks along each axis do not depend on the order of the cells. -/
theorem table_perm (h : cs.Perm es) (override : Option ActiveMap) :
    table g override cs = table g override es := by
  rw [table, table]
  cases hcs : ofCells g override cs with
  | ok marks =>
    obtain ⟨marks', hes, hperm⟩ := ofCells_perm h hcs
    rw [hes]
    exact congrArg some (funext fun a ↦ along_congr (fun x ↦ hperm.mem_iff) a)
  | error e =>
    -- Which cell fails first depends on the order, but not whether one does.
    cases hes : ofCells g override es with
    | ok marks' =>
      obtain ⟨marks, hmarks, -⟩ := ofCells_perm h.symm hes
      rw [hcs] at hmarks
      exact nomatch hmarks
    | error e' => rfl

end Mark

/-- Cells that do the same to the reservoir: they mark the same transmissibilities, and written into
arrays they leave the same behind. -/
structure ActAlike (g : Grid) (cs es : List StorageCell) : Prop where
  marks : ∀ m, Mark.table g m cs = Mark.table g m es
  marked : ∀ m, (∀ x ∈ m, x.size = g.dims.size) → (Mark.table g m cs).isSome
  writes : ∀ a b, CellArrays.writeCells g cs a = .ok () b ↔ CellArrays.writeCells g es a = .ok () b
  written : ∀ a, a.Fits g → ∃ b, CellArrays.writeCells g cs a = .ok () b

theorem ActAlike.of_perm (h : cs.Perm es) (hcs : ∀ c ∈ cs, c.Stands g)
    (hdistinct : (cs.map (·.index)).Nodup) : ActAlike g cs es where
  marks := Mark.table_perm h
  marked m hm := by
    rw [Mark.table, Mark.ofCells_eq hm fun c hc ↦ (hcs c hc).numbers]
    rfl
  writes _ _ := CellArrays.writeCells_perm h hcs hdistinct
  written a ha := by
    have hhas : ∀ c ∈ cs, a.Has (c.slot g) := fun c hc ↦ ha.has (hcs c hc).slot_lt
    exact ⟨_, (CellArrays.writeCells_eq_ok_iff hcs).mpr ⟨hhas, rfl⟩⟩

namespace Registry

structure Alike (r s : Registry) : Prop where
  ids : r.aquifers.keys.Perm s.aquifers.keys
  aquifers : ∀ id a b, r.get id = .ok a → s.get id = .ok b →
    a.id = b.id ∧ a.cells.Perm b.cells ∧ a.couplings.Perm b.couplings

variable {d e : Deck} {p : Properties} {override : Option ActiveMap} {r s : Registry}
  {xs xs' : List StorageCell} {ys ys' : List Coupling} {id : Int} {a : NumericalAquifer}

theorem Complete.perm (h : Complete xs ys) (hxs : xs.Perm xs') (hys : ys.Perm ys') :
    Complete xs' ys' where
  cells := (hxs.map _).nodup_iff.mp h.cells
  couplings := (hys.map _).nodup_iff.mp h.couplings
  coupled c hc := by
    obtain ⟨y, hy, hid⟩ := h.coupled c (hxs.mem_iff.mpr hc)
    exact ⟨y, hys.mem_iff.mp hy, hid⟩

theorem endsAtOwn_perm (h : xs.Perm xs') : endsAtOwn xs = endsAtOwn xs' := by
  funext y
  exact h.any_eq

theorem keys_ofParts (xs : List StorageCell) (ys : List Coupling) :
    (ofParts xs ys).aquifers.keys = (xs.map (·.aquifer)).eraseDups := by
  rw [← Keyed.keys_group, ofParts, Keyed.keys, Keyed.mapValues, List.map_map]
  rfl

theorem mem_entries_of_get (h : r.get id = .ok a) : (id, a) ∈ r.aquifers.entries := by
  rw [get] at h
  split at h
  · rename_i a' hget
    cases h
    exact Keyed.mem_of_get? hget
  · exact nomatch h

theorem of_get_ofParts (h : (ofParts xs ys).get id = .ok a) :
    a = ⟨id, xs.filter (·.aquifer = id),
      ys.filter fun y ↦ decide (y.aquifer = id) && !endsAtOwn xs y⟩ := by
  obtain ⟨e, he, hentry⟩ := List.mem_map.mp (mem_entries_of_get h)
  rw [Keyed.entries_group] at he
  obtain ⟨id', -, rfl⟩ := List.mem_map.mp he
  cases hentry
  rfl

theorem ofParts_alike (hxs : xs.Perm xs') (hys : ys.Perm ys') :
    (ofParts xs ys).Alike (ofParts xs' ys') where
  ids := by
    rw [List.perm_ext_iff_of_nodup (Keyed.nodup_keys _) (Keyed.nodup_keys _), keys_ofParts,
      keys_ofParts]
    intro id
    rw [List.mem_eraseDups, List.mem_eraseDups, (hxs.map _).mem_iff]
  aquifers id a b ha hb := by
    rw [of_get_ofParts ha, of_get_ofParts hb, endsAtOwn_perm hxs]
    exact ⟨rfl, hxs.filter _, hys.filter _⟩

theorem cells_sublist (h : r.get id = .ok a) : a.cells.Sublist r.cells := by
  have hmem : a ∈ r.toList := List.mem_map_of_mem (mem_entries_of_get h)
  exact List.sublist_flatten_of_mem (List.mem_map_of_mem hmem)

theorem actAlike_of_perm (hr : (ofDeck d g p override).result = .ok r)
    (hcells : r.cells.Perm s.cells) (halike : r.Alike s) : ActAlike g r.cells s.cells ∧
      ∀ id a b, r.get id = .ok a → s.get id = .ok b → ActAlike g a.cells b.cells := by
  obtain ⟨hdistinct, hstands⟩ := stands_of_ofDeck hr
  refine ⟨.of_perm hcells hstands hdistinct, fun id a b ha hb ↦ ?_⟩
  have hsub := cells_sublist ha
  exact .of_perm (halike.aquifers id a b ha hb).2.1 (fun c hc ↦ hstands c (hsub.subset hc))
    (hdistinct.sublist (hsub.map _))

/-- A deck that declares what another one declares makes a registry if the other one does, and one
that is like that of the other. -/
theorem exists_reordered (h : d.Reordered e) (hr : (ofDeck d g p override).result = .ok r) :
    ∃ s, (ofDeck e g p override).result = .ok s ∧ r.cells.Perm s.cells ∧ r.Alike s := by
  cases hhas : d.has "AQUNUM" with
  | false =>
    rw [result_ofDeck_of_not_has hhas] at hr
    cases hr
    exact ⟨∅, result_ofDeck_of_not_has (h.declares ▸ hhas), .nil, .nil, nofun⟩
  | true =>
    obtain ⟨xs, css, hxs, hcss, hcomplete, rfl⟩ := (result_ofDeck_eq_ok_iff hhas).mp hr
    obtain ⟨xs', hxs', hcells⟩ := Except.mapM_perm h.storage hxs
    obtain ⟨css', hcss', hcouplings⟩ := Except.mapM_perm h.couplings hcss
    refine ⟨_, (result_ofDeck_eq_ok_iff (h.declares ▸ hhas)).mpr ⟨xs', css', hxs', hcss',
      hcomplete.perm hcells hcouplings.flatten, rfl⟩, ?_, ofParts_alike hcells hcouplings.flatten⟩
    exact (cells_ofParts_perm _ _).trans (hcells.trans (cells_ofParts_perm _ _).symm)

/-- Of two decks that declare the same in whatever order, one makes a registry just if the other
does. The two registries have the same aquifers, which do the same to the reservoir. -/
theorem ofDeck_of_reordered (h : d.Reordered e) :
    ((∃ r, (ofDeck d g p override).result = .ok r) ↔ ∃ s, (ofDeck e g p override).result = .ok s) ∧
      ∀ r s, (ofDeck d g p override).result = .ok r → (ofDeck e g p override).result = .ok s →
        r.Alike s ∧ ActAlike g r.cells s.cells ∧
          ∀ id a b, r.get id = .ok a → s.get id = .ok b → ActAlike g a.cells b.cells := by
  refine ⟨⟨?_, ?_⟩, fun r s hr hs ↦ ?_⟩
  · rintro ⟨r, hr⟩
    obtain ⟨s, hs, -⟩ := exists_reordered h hr
    exact ⟨s, hs⟩
  · rintro ⟨s, hs⟩
    obtain ⟨r, hr, -⟩ := exists_reordered h.symm hs
    exact ⟨r, hr⟩
  · obtain ⟨s', hs', hcells, halike⟩ := exists_reordered h hr
    cases Except.ok.inj (hs.symm.trans hs')
    exact ⟨halike, actAlike_of_perm hr hcells halike⟩

def crossCoupling : Row := .coupling 2 ⟨2, 1, 1⟩ ⟨2, 1, 1⟩ "I+"

def crossDeck : Deck :=
  .ofRows .metric [(.aqunum, [.storage 1 ⟨2, 1, 1⟩, .storage 2 ⟨1, 1, 1⟩]),
    (.aqucon, [.coupling 1 ⟨1, 1, 1⟩ ⟨1, 1, 1⟩ "I-", crossCoupling])]

def turnedDeck : Deck :=
  .ofRows .metric [(.aqunum, [.storage 2 ⟨1, 1, 1⟩]),
    (.aqucon, [crossCoupling, .coupling 1 ⟨1, 1, 1⟩ ⟨1, 1, 1⟩ "I-"]),
    (.aqunum, [.storage 1 ⟨2, 1, 1⟩])]

theorem ofDeck_of_reordered_turned :
    ∃ r s, (ofDeck crossDeck .pair pairProperties none).result = .ok r ∧
      (ofDeck turnedDeck .pair pairProperties none).result = .ok s ∧
      r.aquifers.keys = [1, 2] ∧ s.aquifers.keys = [2, 1] ∧ r.Alike s := by
  have h : crossDeck.Reordered turnedDeck := ⟨rfl, .swap _ _ _, .swap _ _ _⟩
  obtain ⟨r, hr⟩ : ∃ r, (ofDeck crossDeck .pair pairProperties none).result = .ok r := ⟨_, rfl⟩
  obtain ⟨hiff, halike⟩ := ofDeck_of_reordered h
  obtain ⟨s, hs⟩ := hiff.mp ⟨r, hr⟩
  obtain ⟨hrs, -⟩ := halike r s hr hs
  cases hr
  cases hs
  exact ⟨_, _, rfl, rfl, rfl, rfl, hrs⟩

end Registry

end Aquifer
