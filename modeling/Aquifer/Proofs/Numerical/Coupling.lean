import Aquifer.Proofs.Keyed
import Aquifer.Proofs.Numerical.Expansion
import Aquifer.Proofs.Trace

namespace Aquifer

namespace Coupling

variable {g : Grid} {override : Option ActiveMap} {r : Record}

theorem exists_ofRecord (hr : r.Conforms .aqucon) (ho : ∀ m ∈ override, m.size = g.dims.size)
    (hface : r.HasFace "CONNECT_FACE") (hflag : r.HasFlag "ALLOW_INTERNAL_CELLS") :
    ∃ cs, ofRecord g override r = .ok cs := by
  obtain ⟨t, ht⟩ := CouplingTerms.exists_ofRecord hr hface hflag
  exact ⟨_, by rw [CouplingTerms.ofRecord_eq_scan ho, ht]; rfl⟩

theorem place_of_mem_ofRecord {cs : List Coupling} (ho : ∀ m ∈ override, m.size = g.dims.size)
    (h : ofRecord g override r = .ok cs) :
    ∀ c ∈ cs, g.dims.Numbers c.place c.index := by
  rw [CouplingTerms.ofRecord_eq_scan ho, Except.map_eq_ok_iff] at h
  obtain ⟨t, -, rfl⟩ := h
  exact fun c hc ↦ CouplingTerms.numbers_of_mem_scan hc

theorem result_expand : (expand g override r).result = ofRecord g override r := by
  simp only [expand, Traced.liftM_eq_ofExcept, Traced.result_bind, Traced.result_ofExcept]
  cases hr : ofRecord g override r with
  | error e => rfl
  | ok cs =>
    obtain ⟨id, hid, -⟩ := Except.bind_eq_ok_iff.mp hr
    simp only [hid, Except.ok_bind, Traced.result_note, Traced.result_pure]

end Coupling

namespace Couplings

def key (c : Coupling) : Int × Int := (c.aquifer, c.index)

theorem key_eq_iff {g : Grid} {x y : Coupling} (hx : g.dims.Numbers x.place x.index)
    (hy : g.dims.Numbers y.place y.index) :
    key x = key y ↔ x.aquifer = y.aquifer ∧ x.place = y.place := by
  rw [key, key, Prod.mk.injEq, hx.eq_iff hy]

structure Holds (cs : Couplings) (xs : List Coupling) : Prop where
  entries : ∀ id, (cs.ofAquifer id).entries =
    (xs.filter (·.aquifer = id)).map fun c ↦ (c.index, c)
  keys : cs.byAquifer.keys = (xs.map (·.aquifer)).eraseDups

variable {cs : Couplings} {xs : List Coupling} {c : Coupling}

theorem holds_empty : Holds ∅ [] := ⟨fun _ ↦ rfl, rfl⟩

theorem Holds.has_iff (h : cs.Holds xs) (id : Int) :
    cs.has id = true ↔ ∃ c ∈ xs, c.aquifer = id := by
  rw [has, ← Keyed.mem_keys_iff, h.keys, List.mem_eraseDups, List.mem_map]

theorem Holds.contains_iff (h : cs.Holds xs) :
    (cs.ofAquifer c.aquifer).contains c.index = true ↔ key c ∈ xs.map key := by
  rw [← Keyed.mem_keys_iff, Keyed.keys, h.entries, List.map_map]
  simp only [key, List.mem_map, List.mem_filter, decide_eq_true_eq, Function.comp_apply,
    Prod.mk.injEq]
  constructor
  · intro h
    obtain ⟨d, ⟨hd, hid⟩, hindex⟩ := h
    exact ⟨d, hd, hid, hindex⟩
  · intro h
    obtain ⟨d, hd, hid, hindex⟩ := h
    exact ⟨d, ⟨hd, hid⟩, hindex⟩

theorem Holds.add (h : cs.Holds xs) (hc : key c ∉ xs.map key) :
    ∃ ds, cs.add c = .ok ds ∧ ds.Holds (xs ++ [c]) := by
  have hnew : ¬(cs.ofAquifer c.aquifer).contains c.index = true := by
    intro hk
    exact hc (h.contains_iff.mp hk)
  refine ⟨_, if_neg hnew, ?_, ?_⟩
  · intro id
    rw [ofAquifer, Keyed.get?_insert, List.filter_append, List.map_append, List.filter_cons]
    by_cases hid : id = c.aquifer
    · rw [if_pos hid, Option.getD_some,
        Keyed.entries_insert_of_not_mem fun hk ↦ hnew (Keyed.mem_keys_iff.mp hk), h.entries, hid]
      simp
    · rw [if_neg hid, ← ofAquifer, h.entries]
      simp [Ne.symm hid]
  · rw [Keyed.keys_insert, h.keys, List.map_append, List.map_singleton, Keyed.eraseDups_concat]
    simp only [List.mem_eraseDups]

theorem Holds.add_error (h : cs.Holds xs) (hc : key c ∈ xs.map key) :
    cs.add c = .error ⟨c.aquifer, some c.place.oneBased, .coupledTwice⟩ :=
  if_pos (h.contains_iff.mpr hc)

theorem Holds.values (h : cs.Holds xs) (id : Int) :
    (cs.ofAquifer id).values = xs.filter (·.aquifer = id) := by
  rw [Keyed.values, h.entries, List.map_map]
  exact List.map_id _

theorem exists_addAll (h : (xs.map key).Nodup) : ∃ cs, addAll ∅ xs = .ok cs ∧ cs.Holds xs :=
  Except.foldlM_of_nodup (fun _ _ _ ↦ Holds.add) holds_empty h

theorem holds_of_addAll (h : addAll ∅ xs = .ok cs) : (xs.map key).Nodup ∧ cs.Holds xs :=
  Except.nodup_of_foldlM_eq_ok (f := add) (I := Holds) (fun _ _ _ ↦ Holds.add)
    (fun _ _ _ hxs hc ↦ ⟨_, hxs.add_error hc⟩) holds_empty h

variable {d : Deck} {g : Grid} {override : Option ActiveMap}

theorem result_ofDeck : (ofDeck d g override).result =
    (d.records "AQUCON").foldlM (fun cs r ↦ Coupling.ofRecord g override r >>= cs.addAll) ∅ := by
  simp only [ofDeck, Traced.result_foldlM, Traced.result_bind, Traced.liftM_eq_ofExcept,
    Traced.result_ofExcept, Coupling.result_expand]

/-- If all records can be expanded, what they make is added one after another. -/
theorem result_ofDeck_of_mapM {css : List (List Coupling)}
    (h : (d.records "AQUCON").mapM (Coupling.ofRecord g override) = .ok css) :
    (ofDeck d g override).result = addAll ∅ css.flatten := by
  rw [result_ofDeck, Except.foldlM_of_mapM h, addAll, foldlM_flatten]
  rfl

/-- Records whose faces and flags can be read generate couplings to cells of the grid. -/
theorem exists_generated (hd : d.Built) (ho : ∀ m ∈ override, m.size = g.dims.size)
    (hcoupled : ∀ r ∈ d.records "AQUCON",
      r.HasFace "CONNECT_FACE" ∧ r.HasFlag "ALLOW_INTERNAL_CELLS") :
    ∃ css, (d.records "AQUCON").mapM (Coupling.ofRecord g override) = .ok css ∧
      ∀ y ∈ css.flatten, g.dims.Numbers y.place y.index := by
  obtain ⟨ts, hts⟩ := Except.exists_mapM_eq_ok fun r (hr : r ∈ d.records "AQUCON") ↦
    CouplingTerms.exists_ofRecord (hd.conforms rfl hr) (hcoupled r hr).1 (hcoupled r hr).2
  refine ⟨_, CouplingTerms.mapM_ofRecord ho hts, fun y hy ↦ ?_⟩
  obtain ⟨cs, hcs, hy⟩ := List.mem_flatten.mp hy
  obtain ⟨t, -, rfl⟩ := List.mem_map.mp hcs
  exact CouplingTerms.numbers_of_mem_scan hy

/-- The couplings of a deck are those of its records, added one after another. -/
theorem result_ofDeck_eq_ok_iff : (ofDeck d g override).result = .ok cs ↔
    ∃ css, (d.records "AQUCON").mapM (Coupling.ofRecord g override) = .ok css ∧
      addAll ∅ css.flatten = .ok cs := by
  have hflatten (css : List (List Coupling)) : addAll ∅ css.flatten = css.foldlM addAll ∅ :=
    foldlM_flatten _ _ _
  simp only [result_ofDeck, Except.foldlM_bind_eq_ok_iff, hflatten]

end Couplings

end Aquifer
