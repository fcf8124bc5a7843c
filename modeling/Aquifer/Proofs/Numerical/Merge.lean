import Aquifer.Proofs.Numerical.Coupling
import Mathlib.Algebra.GroupWithZero.Nat

namespace Aquifer

variable {g : Grid} {m : ActiveMap} {override : Option ActiveMap} {t u : CouplingTerms}
  {ts : List CouplingTerms}

/-- No cell is coupled to one aquifer by both records, by whatever faces. -/
def CouplingTerms.Apart (g : Grid) (m : ActiveMap) (t u : CouplingTerms) : Prop :=
  t.aquifer = u.aquifer → ∀ c, ¬(t.covers g m c = true ∧ u.covers g m c = true)

namespace Couplings

variable {cs : Couplings} {css : List (List Coupling)} {xs : List Coupling} {d : Deck}

/-- The couplings of all lists are there, those of an aquifer in the order of the lists. -/
structure Merges (cs : Couplings) (css : List (List Coupling)) : Prop where
  entries : ∀ id, (cs.ofAquifer id).entries =
    (css.flatten.filter (·.aquifer = id)).map fun c ↦ (c.index, c)
  keys : cs.byAquifer.keys = (css.flatten.map (·.aquifer)).eraseDups
  has : ∀ id, cs.has id = true ↔ ∃ c ∈ css.flatten, c.aquifer = id
  size : cs.size = (css.map List.length).sum

theorem values_eq_map (cs : Couplings) :
    cs.byAquifer.values = cs.byAquifer.keys.map cs.ofAquifer := by
  rw [Keyed.values, Keyed.keys, List.map_map]
  refine List.map_congr_left fun e he ↦ ?_
  rw [Function.comp_apply, ofAquifer, Keyed.get?_of_mem he]
  rfl

theorem Holds.size_eq (h : cs.Holds xs) : cs.size = xs.length := by
  -- every coupling is under one of the keys, so the groups together are as long as the list
  have hall : (xs.filter fun c ↦ c.aquifer ∈ cs.byAquifer.keys) = xs := by
    rw [List.filter_eq_self, h.keys]
    intro c hc
    exact decide_eq_true (List.mem_eraseDups.mpr (List.mem_map_of_mem hc))
  have hperm := Keyed.flatMap_filter_perm cs.byAquifer.nodup_keys (·.aquifer) xs
  rw [hall] at hperm
  rw [← hperm.length_eq, size, values_eq_map, List.flatMap_map]
  simp only [List.length_flatMap, h.entries, List.length_map]

theorem Holds.merges (h : cs.Holds css.flatten) : cs.Merges css where
  entries := h.entries
  keys := h.keys
  has := h.has_iff
  size := h.size_eq.trans List.length_flatten

theorem nodup_key_scan (t : CouplingTerms) (g : Grid) (m : ActiveMap) :
    ((t.scan g m).map key).Nodup := by
  have hplaces := t.nodup_places_scan g m
  rw [List.Nodup, List.pairwise_map] at hplaces ⊢
  apply hplaces.imp_of_mem
  intro x y hx hy hne hkey
  exact hne ((key_eq_iff (CouplingTerms.numbers_of_mem_scan hx)
    (CouplingTerms.numbers_of_mem_scan hy)).mp hkey).2

theorem disjoint_key_scan_iff :
    List.Disjoint ((t.scan g m).map key) ((u.scan g m).map key) ↔ t.Apart g m u := by
  constructor
  · rintro h hid c ⟨ht, hu⟩
    have hkey : key (u.coupling c (g.dims.linear c)) = key (t.coupling c (g.dims.linear c)) :=
      Prod.ext hid.symm rfl
    have hmem := List.mem_map_of_mem (f := key) (CouplingTerms.coupling_mem_scan hu)
    exact h (List.mem_map_of_mem (CouplingTerms.coupling_mem_scan ht)) (hkey ▸ hmem)
  · intro h k hk hk'
    obtain ⟨x, hx, rfl⟩ := List.mem_map.mp hk
    obtain ⟨y, hy, hkey⟩ := List.mem_map.mp hk'
    obtain ⟨hid, hplace⟩ := (key_eq_iff (CouplingTerms.numbers_of_mem_scan hy)
      (CouplingTerms.numbers_of_mem_scan hx)).mp hkey
    obtain ⟨ht, hx⟩ := CouplingTerms.mem_scan.mp hx
    obtain ⟨hu, hy⟩ := CouplingTerms.mem_scan.mp hy
    rw [hx, hy] at hid
    exact h hid.symm x.place ⟨ht, hplace ▸ hu⟩

/-- The couplings of one record are to different cells, so only different records can clash. -/
theorem nodup_key_scans_iff : (((ts.map fun t ↦ t.scan g m).flatten).map key).Nodup ↔
    ts.Pairwise (CouplingTerms.Apart g m) := by
  rw [List.map_flatten, List.nodup_flatten, List.map_map, List.pairwise_map, List.forall_mem_map]
  simp only [Function.comp_apply, disjoint_key_scan_iff]
  exact and_iff_right fun t _ ↦ nodup_key_scan t g m

/-- Where all faces and flags can be read, the couplings of a deck can be merged just if none is
generated twice, which takes two records of one aquifer that cover a common cell. Merged, they are
what the records generated. -/
theorem ofDeck_merges (hd : d.Built) (ho : ∀ m ∈ override, m.size = g.dims.size)
    (hcoupled : ∀ r ∈ d.records "AQUCON",
      r.HasFace "CONNECT_FACE" ∧ r.HasFlag "ALLOW_INTERNAL_CELLS") :
    ∃ ts css, (d.records "AQUCON").mapM CouplingTerms.ofRecord = .ok ts ∧
      (d.records "AQUCON").mapM (fun r ↦ (Coupling.expand g override r).result) = .ok css ∧
      ((∃ cs, (ofDeck d g override).result = .ok cs) ↔ (css.flatten.map key).Nodup) ∧
      ((css.flatten.map key).Nodup ↔ ts.Pairwise (CouplingTerms.Apart g (g.mapOr override))) ∧
      ∀ cs, (ofDeck d g override).result = .ok cs → cs.Merges css := by
  obtain ⟨ts, hts⟩ := Except.exists_mapM_eq_ok fun r (hr : r ∈ d.records "AQUCON") ↦
    CouplingTerms.exists_ofRecord (hd.conforms rfl hr) (hcoupled r hr).1 (hcoupled r hr).2
  have hcss := CouplingTerms.mapM_ofRecord ho hts
  simp only [Coupling.result_expand]
  refine ⟨ts, _, hts, hcss, ?succeeds, nodup_key_scans_iff, ?merges⟩
  case succeeds =>
    rw [result_ofDeck_of_mapM hcss]
    constructor
    · rintro ⟨cs, hcs⟩
      exact (holds_of_addAll hcs).1
    · intro h
      obtain ⟨cs, hcs, -⟩ := exists_addAll h
      exact ⟨cs, hcs⟩
  case merges =>
    intro cs hcs
    rw [result_ofDeck_of_mapM hcss] at hcs
    exact (holds_of_addAll hcs).2.merges

section Both

def bothCells (id : Int) (face : String) : Row :=
  .coupling id ⟨1, 1, 1⟩ ⟨2, 1, 1⟩ face (.text "YES")

def bothDeck (id : Int) : Deck :=
  .ofRows .metric [(.aqucon, [bothCells 1 "I-", bothCells id "I+"])]

theorem built_bothDeck (id : Int) : (bothDeck id).Built :=
  Deck.built_ofRows rfl rfl

theorem coupled_bothDeck (id : Int) : ∀ r ∈ (bothDeck id).records "AQUCON",
    r.HasFace "CONNECT_FACE" ∧ r.HasFlag "ALLOW_INTERNAL_CELLS" := by
  have hrecords : (bothDeck id).records "AQUCON" =
      [.ofItems (bothCells 1 "I-") .aqucon, .ofItems (bothCells id "I+") .aqucon] := rfl
  rw [hrecords, List.forall_mem_cons, List.forall_mem_singleton]
  exact ⟨⟨⟨_, _, rfl, rfl⟩, ⟨_, _, rfl, rfl⟩⟩, ⟨_, _, rfl, rfl⟩, ⟨_, _, rfl, rfl⟩⟩

/-- Two aquifers share both cells, but one aquifer cannot have them twice, even by different
faces. -/
theorem ofDeck_merges_both :
    (∃ cs, (ofDeck (bothDeck 2) .pair none).result = .ok cs ∧ cs.size = 4 ∧ cs.has 3 = false) ∧
      ¬∃ cs, (ofDeck (bothDeck 1) .pair none).result = .ok cs := by
  have ho : ∀ m ∈ (none : Option ActiveMap), m.size = Grid.pair.dims.size := nofun
  constructor
  · obtain ⟨ts, css, -, hcss, hsucceeds, -, hmerges⟩ :=
      ofDeck_merges (built_bothDeck 2) ho (coupled_bothDeck 2)
    cases Except.ok.inj hcss
    obtain ⟨cs, hcs⟩ := hsucceeds.mpr (by decide)
    have hmerged := hmerges cs hcs
    refine ⟨cs, hcs, hmerged.size, ?_⟩
    rw [Bool.eq_false_iff, ne_eq, hmerged.has]
    decide
  · obtain ⟨ts, css, -, hcss, hsucceeds, -⟩ :=
      ofDeck_merges (built_bothDeck 1) ho (coupled_bothDeck 1)
    cases Except.ok.inj hcss
    rw [hsucceeds]
    decide

end Both

end Couplings

end Aquifer
