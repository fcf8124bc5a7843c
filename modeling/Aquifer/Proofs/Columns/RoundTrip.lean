import Aquifer.Proofs.Columns.Fill

namespace Aquifer

namespace Columns

variable {α β : Type} {s : Store} {p : Location}

theorem sectionAt_of_holds {t : Table α} {xs : List α} (h : s.Holds p t xs) :
    ∃ sec, sectionAt s p = .ok sec ∧ sec.Holds t xs := by
  obtain ⟨n, hn, hgroup, hrows⟩ := h.rows
  have hrequire : require s p = .ok n := by rw [require, hn]
  have hrowsOf : rowsOf n = .ok xs.length := by
    rw [rowsOf, hrows]
    rfl
  refine ⟨⟨xs.length, fun name ↦ s.column (p ++ [name])⟩, ?_, rfl, h.columns⟩
  rw [sectionAt, hrequire, Except.ok_bind, hgroup]
  simp only [hrowsOf]
  rfl

theorem foldlM_ok (step : β → α → β) (b : β) (xs : List α) :
    xs.foldlM (fun b x ↦ (.ok (step b x) : Except Fault β)) b = .ok (xs.foldl step b) :=
  List.foldlM_pure

theorem gatherCollection_of_holds [AnalyticKind α] {c : Collection α} {t : Table α}
    {sec : Section} (h : sec.Holds t c.toList) (ht : t.Gathers) (hc : c.OwnKeys) :
    gatherCollection t sec = .ok c := by
  rw [gatherCollection, Section.fold_eq_foldlM h ht, foldlM_ok]
  exact congrArg _ (Collection.ofList_toList hc)

theorem gatherCarterTracy_of_holds {c : Collection CarterTracy} {sec : Section}
    (h : sec.Holds .carterTracy c.toList) (hc : c.OwnKeys) : gatherCarterTracy sec = .ok c := by
  obtain ⟨cols, hcols, hs⟩ := h.columns
  obtain ⟨ps, -, -, -, rfl⟩ := Table.columns_carterTracy_eq_ok_iff.mp hcols
  obtain ⟨-, hs⟩ := hs.append
  have htime := hs _ (List.mem_cons_self ..)
  have hpressure := hs _ (List.mem_cons_of_mem _ (List.mem_cons_self ..))
  rw [gatherCarterTracy, htime, Except.ok_bind, hpressure]
  exact gatherCollection_of_holds h Table.gathers_carterTracy hc

theorem gatherInflux_of_holds {x : Influx} {sec : Section} (h : sec.Holds .influxCell x.toList)
    (hx : x.OwnKeys) (hne : ∀ e ∈ x.cells.entries, e.2 ≠ []) : gatherInflux sec = .ok x := by
  rw [gatherInflux, Section.fold_eq_foldlM h Table.gathers_influxCell, foldlM_ok]
  exact congrArg _ (Influx.ofCells_toList hx hne)

theorem foldlM_intoLists {key : α → Int} {xs : List α} {m : Keyed Int (List α)}
    (h : ∀ x ∈ xs, key x ∈ m.keys) :
    xs.foldlM (intoLists key) m = .ok (m.pushAll key xs) := by
  induction xs generalizing m with
  | nil => rfl
  | cons x xs ih =>
    rw [List.forall_mem_cons] at h
    have hstep : intoLists key m x = .ok (m.push (key x) x) := by
      rw [intoLists, if_pos (Keyed.mem_keys_iff.mp h.1)]
    rw [List.foldlM_cons, hstep]
    exact ih fun y hy ↦ (Keyed.mem_keys_insert ..).mpr (Or.inl (h.2 y hy))

theorem entries_ofList_nil {ids : List Int} (h : ids.Nodup) :
    (Keyed.ofList (ids.map (·, ([] : List α)))).entries = ids.map (·, []) := by
  apply Keyed.entries_ofList
  rw [List.map_map]
  exact (List.map_id ids).symm ▸ h

theorem getD_ofList_nil {ids : List Int} (h : ids.Nodup) (k : Int) :
    ((Keyed.ofList (ids.map (·, ([] : List α)))).get? k).getD [] = [] := by
  cases hk : (Keyed.ofList (ids.map (·, ([] : List α)))).get? k with
  | none => rfl
  | some xs =>
    have hmem := Keyed.mem_of_get? hk
    rw [entries_ofList_nil h] at hmem
    obtain ⟨_, -, he⟩ := List.mem_map.mp hmem
    exact (congrArg Prod.snd he).symm

/-- Parts laid end to end, aquifer by aquifer, are sorted into the lists they came from. -/
theorem sort_parts {parts : NumericalAquifer → List α} {key : α → Int} {r : Registry}
    {t : Table α} {sec : Section} (h : sec.Holds t (r.toList.flatMap parts)) (ht : t.Gathers)
    (hr : r.OwnKeys) (hparts : ∀ a ∈ r.toList, ∀ x ∈ parts a, key x = a.id) :
    ∃ m, sec.fold t (intoLists key) (Keyed.ofList ((r.toList.map (·.id)).map (·, []))) = .ok m ∧
      ∀ a ∈ r.toList, (m.get? a.id).getD [] = parts a := by
  have hids : (r.toList.map (·.id)).Nodup := Registry.nodup_ids hr
  have hkeys : ∀ x ∈ r.toList.flatMap parts,
      key x ∈ (Keyed.ofList ((r.toList.map (·.id)).map (·, ([] : List α)))).keys := by
    intro x hx
    obtain ⟨a, ha, hx⟩ := List.mem_flatMap.mp hx
    rw [Keyed.keys, entries_ofList_nil hids, List.map_map, hparts a ha x hx]
    exact List.mem_map.mpr ⟨a.id, List.mem_map_of_mem ha, rfl⟩
  refine ⟨_, (Section.fold_eq_foldlM h ht _ _).trans (foldlM_intoLists hkeys), ?_⟩
  intro a ha
  rw [Keyed.getD_pushAll, getD_ofList_nil hids, List.nil_append]
  exact Keyed.filter_flatMap hids hparts ha

theorem mapM_toInt (ns : List Int) : (ns.map Raw.int).mapM Raw.toInt = .ok ns := by
  induction ns with
  | nil => rfl
  | cons n ns ih =>
    simp only [List.map_cons, List.mapM_cons, ih]
    rfl

theorem gatherNumbers_of_numbered {ids : List Int} (h : Numbered s ids) :
    gatherNumbers s = .ok ids := by
  obtain ⟨n, hn, hgroup⟩ := h.group
  obtain ⟨m, hm, z, hcolumn⟩ := h.numbers
  have hrequire : require s numericalAt = .ok n := by rw [require, hn]
  have hget : s.get numbersAt = .ok m := by rw [Store.get, hm]
  rw [gatherNumbers, hrequire, hget, Except.ok_bind, Node.isColumn, hgroup, Except.ok_bind, hcolumn]
  exact mapM_toInt ids

theorem gatherNumerical_of_holds {r : Registry} (hids : Numbered s (r.toList.map (·.id)))
    (hcells : s.Holds cellsAt .storageCell r.cells)
    (hcouplings : s.Holds couplingsAt .coupling r.couplings) (hr : r.OwnKeys)
    (hparts : ∀ a ∈ r.toList, a.OwnParts) : gatherNumerical s = .ok r := by
  obtain ⟨sec, hsec, hcells⟩ := sectionAt_of_holds hcells
  obtain ⟨sec', hsec', hcouplings⟩ := sectionAt_of_holds hcouplings
  obtain ⟨ms, hms, hcells⟩ := sort_parts hcells Table.gathers_storageCell hr
    fun a ha ↦ (hparts a ha).1
  obtain ⟨ns, hns, hcouplings⟩ := sort_parts hcouplings Table.gathers_coupling hr
    fun a ha ↦ (hparts a ha).2
  have hbuilt : (r.toList.map (·.id)).map (fun id ↦ (id,
      (⟨id, (ms.get? id).getD [], (ns.get? id).getD []⟩ : NumericalAquifer))) =
      r.toList.map fun a ↦ (a.id, a) := by
    rw [List.map_map]
    refine List.map_congr_left fun a ha ↦ ?_
    simp only [Function.comp_apply, hcells a ha, hcouplings a ha]
  rw [cellsAt] at hsec
  rw [couplingsAt] at hsec'
  rw [gatherNumerical, gatherNumbers_of_numbered hids]
  simp only [Except.ok_bind, hsec, hsec', hms, hns]
  rw [hbuilt]
  exact congrArg Except.ok (Registry.ofList_toList hr)

end Columns

/-- A configuration that keeps everything under the number of its aquifer can be stored under every
setting, and the store gives the same configuration. -/
theorem Configuration.store_configuration {c : Configuration} (hc : c.OwnKeys) (hp : c.OwnParts)
    (hi : c.IntegersFit) (hn : c.RowsFit) {setting : Option String}
    (hs : Compression.Accepted setting) :
    ∃ s, c.store setting = (.ok (), s) ∧ s.configuration = .ok c := by
  obtain ⟨s, hrun, hversion, hfilled⟩ := Columns.run_fill hc hi hn hs
  refine ⟨s, by rw [store, hrun], ?_⟩
  obtain ⟨fs, hfs, hfetkovich⟩ := Columns.sectionAt_of_holds hfilled.fetkovich
  obtain ⟨ts, hts, hcarterTracy⟩ := Columns.sectionAt_of_holds hfilled.carterTracy
  obtain ⟨qs, hqs, hconstantFlux⟩ := Columns.sectionAt_of_holds hfilled.constantFlux
  obtain ⟨xs, hxs, hinflux⟩ := Columns.sectionAt_of_holds hfilled.influx
  have hsupported :
      ¬(Columns.formatVersion < 1 ∨ Columns.formatVersion < Columns.formatVersion) := by decide
  simp only [Store.configuration, Columns.gather, hversion, Except.ok_bind, if_neg hsupported, hfs,
    Columns.gatherCollection_of_holds hfetkovich Table.gathers_fetkovich hc.fetkovich, hts,
    Columns.gatherCarterTracy_of_holds hcarterTracy hc.carterTracy, hqs,
    Columns.gatherCollection_of_holds hconstantFlux Table.gathers_constantFlux hc.constantFlux,
    Columns.gatherNumerical_of_holds hfilled.numbers hfilled.cells hfilled.couplings hc.numerical
      hp.numerical, hxs, Columns.gatherInflux_of_holds hinflux hc.influx hp.influx]
  rfl

theorem Configuration.store_configuration_small :
    Configuration.small.OwnKeys ∧ Configuration.small.OwnParts ∧
      ∃ s, Configuration.small.store (some "gzip") = (.ok (), s) ∧
        s.configuration = .ok Configuration.small :=
  ⟨small_ownKeys, small_ownParts, Configuration.store_configuration small_ownKeys small_ownParts
    small_integersFit small_rowsFit (Or.inr (Or.inr ⟨.gzip, rfl⟩))⟩

end Aquifer
