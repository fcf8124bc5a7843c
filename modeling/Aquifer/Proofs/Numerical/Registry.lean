import Aquifer.Proofs.Numerical.Builder

namespace Aquifer

namespace Registry

/-- What makes a registry out of declared cells and generated couplings: the cells are different
active cells of the grid, no cell is coupled to an aquifer twice, and every aquifer with a cell has
a coupling. -/
structure Buildable (g : Grid) (es : List (Int × Coord)) (ys : List Coupling) : Prop where
  active : ∀ e ∈ es, g.Active e.2
  cells : (es.map Prod.snd).Nodup
  couplings : (ys.map fun y ↦ (y.aquifer, y.place)).Nodup
  coupled : ∀ e ∈ es, ∃ y ∈ ys, y.aquifer = e.1

/-- The aquifers in the order in which their numbers are first declared, each with its cells and its
couplings in order; couplings to own cells are dropped. -/
def assembled (es : List (Int × Coord)) (xs : List StorageCell) (ys : List Coupling) :
    List (Int × NumericalAquifer) :=
  (es.map Prod.fst).eraseDups.map fun id ↦ (id,
    ⟨id, xs.filter (·.aquifer = id), ys.filter fun y ↦ y.aquifer = id ∧ (id, y.place) ∉ es⟩)

theorem cells_mapValues {m : Keyed Int (List StorageCell)}
    {f : Int → List StorageCell → NumericalAquifer} (hf : ∀ id cs, (f id cs).cells = cs) :
    (Registry.mk (m.mapValues f)).cells = m.values.flatten := by
  rw [cells, toList, Keyed.values, Keyed.values, Keyed.mapValues, List.map_map, List.flatMap_map]
  simp only [Function.comp_apply, hf]
  rfl

variable {d : Deck} {g : Grid} {p : Properties} {override : Option ActiveMap}
  {es : List (Int × Coord)} {xs : List StorageCell} {ys : List Coupling} {b : Builder}

theorem result_ofDeck_of_not_has (h : d.has "AQUNUM" = false) :
    (ofDeck d g p override).result = .ok ∅ := by
  rw [ofDeck, h]
  rfl

def handedOver : Builder × Option Issue → Except Fault Registry
  | (b, none) => .ok b.registry
  | (_, some i) => .error (.issue i)

theorem result_ofDeck_of_has (h : d.has "AQUNUM" = true) :
    (ofDeck d g p override).result = Builder.ofRecords g p (d.records "AQUNUM") >>= fun b ↦
      (Couplings.ofDeck d g override).result >>= fun cs ↦
        (b.attachAll cs).result >>= handedOver := by
  rw [ofDeck, h]
  simp only [Bool.not_true, Bool.false_eq_true, if_false, Traced.result_bind,
    Traced.liftM_eq_ofExcept, Traced.result_ofExcept]
  congr
  funext b
  congr
  funext cs
  congr
  funext ⟨b, problem⟩
  cases problem <;> rfl

theorem nodup_key_iff (hys : ∀ y ∈ ys, g.dims.Numbers y.place y.index) :
    (ys.map Couplings.key).Nodup ↔ (ys.map fun y ↦ (y.aquifer, y.place)).Nodup := by
  refine nodup_map_iff fun y hy z hz ↦ ?_
  rw [Couplings.key_eq_iff (hys y hy) (hys z hz), Prod.mk.injEq]

/-- A coupling is to an own cell just if its aquifer and its place are declared together. -/
theorem owns_iff_mem (hb : b.Holds xs) (hes : xs.map (fun c ↦ (c.aquifer, c.place)) = es)
    (hxs : ∀ c ∈ xs, g.dims.Numbers c.place c.index)
    {y : Coupling} (hy : g.dims.Numbers y.place y.index) :
    b.owns y = true ↔ (y.aquifer, y.place) ∈ es := by
  rw [hb.owns_iff, ← hes, List.mem_map]
  refine exists_congr fun c ↦ and_congr_right fun hc ↦ ?_
  rw [Prod.mk.injEq, (hxs c hc).eq_iff hy]
  exact and_comm

theorem keys_cells (hb : b.Holds xs) (hes : xs.map (fun c ↦ (c.aquifer, c.place)) = es) :
    b.cells.keys = (es.map Prod.fst).eraseDups := by
  rw [hb.cells, Keyed.keys_group, ← hes, List.map_map]
  rfl

theorem filter_flatMap_filter {ids : List Int} (h : ids.Nodup) (ys : List Coupling) {id : Int}
    (hid : id ∈ ids) : (ids.flatMap fun id ↦ ys.filter (·.aquifer = id)).filter (·.aquifer = id) =
      ys.filter (·.aquifer = id) := by
  have hids : (ids.map fun id ↦ id).Nodup := (List.map_id ids).symm ▸ h
  refine Keyed.filter_flatMap hids (fun id _ y hy ↦ ?_) hid
  exact of_decide_eq_true (List.mem_filter.mp hy).2

/-- The attached couplings of an aquifer are those that were generated for it, but for the ones that
the builder refuses. -/
theorem getD_couplings (hb : b.Holds xs) (ys : List Coupling) {ids : List Int} (hids : ids.Nodup)
    {id : Int} (hid : id ∈ ids) :
    ((b.couple (b.foreign (ids.flatMap fun id ↦ ys.filter (·.aquifer = id)))).couplings.get?
      id).getD [] = ys.filter fun y ↦ decide (y.aquifer = id) && !b.owns y := by
  rw [Builder.couple, Keyed.getD_pushAll, hb.couplings, List.nil_append, Builder.foreign,
    List.filter_comm, filter_flatMap_filter hids ys hid, List.filter_filter]
  exact List.filter_congr fun y _ ↦ Bool.and_comm ..

theorem filter_foreign (hb : b.Holds xs) (hes : xs.map (fun c ↦ (c.aquifer, c.place)) = es)
    (hxs : ∀ c ∈ xs, g.dims.Numbers c.place c.index)
    (hys : ∀ y ∈ ys, g.dims.Numbers y.place y.index) (id : Int) :
    (ys.filter fun y ↦ decide (y.aquifer = id) && !b.owns y) =
      ys.filter fun y ↦ y.aquifer = id ∧ (id, y.place) ∉ es := by
  refine List.filter_congr fun y hy ↦ ?_
  by_cases hid : y.aquifer = id
  · rw [Bool.eq_iff_iff, ← hid]
    simp [← owns_iff_mem hb hes hxs (hys y hy)]
  · simp [hid]

/-- With the couplings of all its aquifers attached, a builder hands over the assembled aquifers. -/
theorem entries_registry (hb : b.Holds xs) (hes : xs.map (fun c ↦ (c.aquifer, c.place)) = es)
    (hxs : ∀ c ∈ xs, g.dims.Numbers c.place c.index)
    (hys : ∀ y ∈ ys, g.dims.Numbers y.place y.index) :
    (b.couple (b.foreign (b.cells.keys.flatMap fun id ↦
      ys.filter (·.aquifer = id)))).registry.aquifers.entries = assembled es xs ys := by
  have hcells : b.cells.entries = b.cells.keys.map fun id ↦ (id, xs.filter (·.aquifer = id)) := by
    rw [hb.cells, Keyed.entries_group, Keyed.keys_group]
  show (b.cells.entries.map _) = _
  rw [hcells, assembled, ← keys_cells hb hes, List.map_map]
  refine List.map_congr_left fun id hid ↦ ?_
  have hcouplings := (getD_couplings hb ys b.cells.nodup hid).trans
    (filter_foreign hb hes hxs hys id)
  exact congrArg (fun zs ↦ (id, (⟨id, xs.filter (·.aquifer = id), zs⟩ : NumericalAquifer)))
    hcouplings

theorem mem_keys_cells (hb : b.Holds xs)
    (hes : xs.map (fun c ↦ (c.aquifer, c.place)) = es) (P : Int → Prop) :
    (∀ id ∈ b.cells.keys, P id) ↔ ∀ e ∈ es, P e.1 := by
  rw [keys_cells hb hes]
  simp only [List.mem_eraseDups, List.mem_map]
  exact ⟨fun h e he ↦ h e.1 ⟨e, he, rfl⟩, fun h id ⟨e, he, hid⟩ ↦ hid ▸ h e he⟩

/-- Declared cells and generated couplings that make a registry are put together. -/
theorem exists_ofDeck (hd : d.Built) (hp : p.Fits g)
    (hporo : ∀ r ∈ d.records "AQUNUM", r.defaulted "PORO" = .ok true → p.hasReal "PORO" = true)
    (hes : (d.records "AQUNUM").mapM Record.storage = .ok es) {css : List (List Coupling)}
    (hcss : (d.records "AQUCON").mapM (Coupling.ofRecord g override) = .ok css)
    (hys : ∀ y ∈ css.flatten, g.dims.Numbers y.place y.index)
    (hhas : d.has "AQUNUM" = true) (hbuildable : Buildable g es css.flatten) :
    ∃ r, (ofDeck d g p override).result = .ok r := by
  obtain ⟨b, hb⟩ := Builder.exists_ofRecords (fun r hr ↦ hd.conforms rfl hr) hp hporo hes
    hbuildable.active hbuildable.cells
  obtain ⟨-, -, xs, hxs, hholds⟩ := Builder.holds_of_ofRecords hes hb
  obtain ⟨hplaces, -⟩ := Builder.places_of_mapM hes hxs
  obtain ⟨cs, hcs, hcouplings⟩ :=
    Couplings.exists_addAll ((nodup_key_iff hys).mpr hbuildable.couplings)
  have hids : ∀ id ∈ b.cells.keys, ∃ y ∈ css.flatten, y.aquifer = id :=
    (mem_keys_cells hholds hplaces _).mpr hbuildable.coupled
  exact ⟨_, by
    rw [result_ofDeck_of_has hhas, hb, Except.ok_bind,
      Couplings.result_ofDeck_eq_ok_iff.mpr ⟨css, hcss, hcs⟩, Except.ok_bind, Builder.attachAll,
      Builder.result_attachAquifers_of_coupled hcouplings hids, Except.ok_bind, handedOver]⟩

/-- A registry of a deck is put together from its declared cells and generated couplings. -/
theorem assembled_of_ofDeck
    (hes : (d.records "AQUNUM").mapM Record.storage = .ok es) {css : List (List Coupling)}
    (hcss : (d.records "AQUCON").mapM (Coupling.ofRecord g override) = .ok css)
    (hys : ∀ y ∈ css.flatten, g.dims.Numbers y.place y.index)
    (hhas : d.has "AQUNUM" = true) {r : Registry} (hr : (ofDeck d g p override).result = .ok r) :
    Buildable g es css.flatten ∧
      ∃ xs, (d.records "AQUNUM").mapM (StorageCell.ofRecord g p) = .ok xs ∧
      xs.map (fun c ↦ (c.aquifer, c.place)) = es ∧
      r.aquifers.entries = assembled es xs css.flatten := by
  rw [result_ofDeck_of_has hhas] at hr
  obtain ⟨b, hb, hr⟩ := Except.bind_eq_ok_iff.mp hr
  obtain ⟨cs, hcs, hr⟩ := Except.bind_eq_ok_iff.mp hr
  obtain ⟨hactive, hnodup, xs, hxs, hholds⟩ := Builder.holds_of_ofRecords hes hb
  obtain ⟨hplaces, hin⟩ := Builder.places_of_mapM hes hxs
  obtain ⟨_, hcss', hcs⟩ := Couplings.result_ofDeck_eq_ok_iff.mp hcs
  cases hcss.symm.trans hcss'
  obtain ⟨hkeys, hcouplings⟩ := Couplings.holds_of_addAll hcs
  by_cases hids : ∀ id ∈ b.cells.keys, ∃ y ∈ css.flatten, y.aquifer = id
  · rw [Builder.attachAll, Builder.result_attachAquifers_of_coupled hcouplings hids,
      Except.ok_bind] at hr
    cases Except.ok.inj hr
    have hcoupled := (mem_keys_cells hholds hplaces _).mp hids
    exact ⟨⟨hactive, hnodup, (nodup_key_iff hys).mp hkeys, hcoupled⟩, xs, hxs, hplaces,
      entries_registry hholds hplaces hin hys⟩
  · obtain ⟨b', i, hi⟩ := Builder.result_attachAquifers_error hcouplings hids b
    rw [Builder.attachAll, hi] at hr
    exact nomatch hr

/-- Where all faces and flags of couplings can be read and porosities are given or can be looked up,
a deck with storage cells has a registry just if its cells and couplings make one, and then the
registry is made of them. -/
theorem ofDeck_succeeds_iff (hd : d.Built) {reals tables : Keyed String Raw}
    (hp : Properties.ofArrays g reals tables = .ok p)
    (ho : ∀ m ∈ override, m.size = g.dims.size)
    (hcoupled : ∀ r ∈ d.records "AQUCON",
      r.HasFace "CONNECT_FACE" ∧ r.HasFlag "ALLOW_INTERNAL_CELLS")
    (hporo : ∀ r ∈ d.records "AQUNUM", r.defaulted "PORO" = .ok true → p.hasReal "PORO" = true) :
    ∃ es css, (d.records "AQUNUM").mapM Record.storage = .ok es ∧
      (d.records "AQUCON").mapM (Coupling.ofRecord g override) = .ok css ∧
      ((∃ r, (ofDeck d g p override).result = .ok r) ↔
        d.has "AQUNUM" = false ∨ Buildable g es css.flatten) ∧
      ∀ r, (ofDeck d g p override).result = .ok r → d.has "AQUNUM" = true →
        ∃ xs, (d.records "AQUNUM").mapM (StorageCell.ofRecord g p) = .ok xs ∧
          xs.map (fun c ↦ (c.aquifer, c.place)) = es ∧
          r.aquifers.entries = assembled es xs css.flatten := by
  obtain ⟨es, hes⟩ := Except.exists_mapM_eq_ok fun r (hr : r ∈ d.records "AQUNUM") ↦
    (hd.conforms rfl hr).exists_storage
  obtain ⟨css, hcss⟩ := Except.exists_mapM_eq_ok fun r (hr : r ∈ d.records "AQUCON") ↦
    Coupling.exists_ofRecord (hd.conforms rfl hr) ho (hcoupled r hr).1 (hcoupled r hr).2
  have hys : ∀ y ∈ css.flatten, g.dims.Numbers y.place y.index := by
    intro y hy
    obtain ⟨cs, hcs, hy⟩ := List.mem_flatten.mp hy
    obtain ⟨r, -, hr⟩ := (Except.exists_of_mem_mapM hcss).2 cs hcs
    exact Coupling.place_of_mem_ofRecord ho hr y hy
  refine ⟨es, css, hes, hcss, ⟨?_, ?_⟩, fun r hr hhas ↦
    (assembled_of_ofDeck hes hcss hys hhas hr).2⟩
  · intro h
    obtain ⟨r, hr⟩ := h
    by_cases hhas : d.has "AQUNUM" = true
    · exact Or.inr (assembled_of_ofDeck hes hcss hys hhas hr).1
    · exact Or.inl (eq_false_of_ne_true hhas)
  · intro h
    rcases h with hhas | hbuildable
    · exact ⟨∅, result_ofDeck_of_not_has hhas⟩
    · by_cases hhas : d.has "AQUNUM" = true
      · exact exists_ofDeck hd (Properties.fits_of_ofArrays hp) hporo hes hcss hys hhas hbuildable
      · exact ⟨∅, result_ofDeck_of_not_has (eq_false_of_ne_true hhas)⟩

def pairProperties : Properties := ⟨2, ∅, Keyed.ofList [("PVTNUM", [1, 1]), ("SATNUM", [1, 1])]⟩

section Twin

/-- A deck of two aquifers, one with two cells of the block and one with its last cell, each coupled
to cells beside them and the first one to its own cell as well. -/
def twinDeck : Deck :=
  .ofRows .metric [(.aqunum, [.storage 1 ⟨1, 1, 1⟩, .storage 2 ⟨4, 3, 2⟩, .storage 1 ⟨2, 1, 1⟩]),
    (.aqucon, [.coupling 2 ⟨4, 3, 1⟩ ⟨4, 3, 1⟩ "K-", .coupling 1 ⟨1, 1, 0⟩ ⟨1, 2, 1⟩ "I-"])]

def blockProperties : Properties :=
  ⟨23, ∅, Keyed.ofList [("PVTNUM", List.replicate 23 1), ("SATNUM", List.replicate 23 1)]⟩

theorem built_twinDeck : twinDeck.Built := Deck.built_ofRows rfl rfl

theorem ofDeck_succeeds_iff_twin :
    ∃ r, (ofDeck twinDeck .block blockProperties none).result = .ok r ∧
      r.aquifers.entries.map (fun e ↦ (e.1, e.2.cells.map (·.index))) = [(1, [0, 1]), (2, [23])] ∧
      r.aquifers.entries.map (fun e ↦ e.2.couplings.map (·.index)) = [[4], [11]] := by
  have hp : Properties.ofArrays .block ∅ ∅ = .ok blockProperties := rfl
  have ho : ∀ m ∈ (none : Option ActiveMap), m.size = Grid.block.dims.size := nofun
  have hcoupled : ∀ r ∈ twinDeck.records "AQUCON",
      r.HasFace "CONNECT_FACE" ∧ r.HasFlag "ALLOW_INTERNAL_CELLS" :=
    List.forall_mem_cons.mpr ⟨⟨⟨_, _, rfl, rfl⟩, ⟨_, _, rfl, rfl⟩⟩,
      List.forall_mem_singleton.mpr ⟨⟨_, _, rfl, rfl⟩, ⟨_, _, rfl, rfl⟩⟩⟩
  have hporo : ∀ r ∈ twinDeck.records "AQUNUM",
      r.defaulted "PORO" = .ok true → blockProperties.hasReal "PORO" = true :=
    List.forall_mem_cons.mpr ⟨nofun, List.forall_mem_cons.mpr ⟨nofun,
      List.forall_mem_singleton.mpr nofun⟩⟩
  obtain ⟨es, css, hes, hcss, hiff, hassembled⟩ :=
    ofDeck_succeeds_iff built_twinDeck hp ho hcoupled hporo
  obtain rfl : es = [(1, ⟨0, 0, 0⟩), (2, ⟨3, 2, 1⟩), (1, ⟨1, 0, 0⟩)] := (Except.ok.inj hes).symm
  cases Except.ok.inj hcss
  obtain ⟨r, hr⟩ := hiff.mpr <| Or.inr
    { active := List.forall_mem_cons.mpr ⟨⟨rfl, rfl⟩, List.forall_mem_cons.mpr ⟨⟨rfl, rfl⟩,
        List.forall_mem_singleton.mpr ⟨rfl, rfl⟩⟩⟩
      cells := by decide
      couplings := by decide
      coupled := by decide }
  obtain ⟨xs, hxs, -, hentries⟩ := hassembled r hr rfl
  cases Except.ok.inj hxs
  exact ⟨r, hr, by rw [hentries]; rfl, by rw [hentries]; rfl⟩

end Twin

end Registry

end Aquifer
