import Aquifer.Proofs.Analytic.Claim
import Aquifer.Proofs.OwnKeys
import Aquifer.Proofs.Trace

namespace Aquifer

namespace Claim

variable {xs ys : List Claim} {x y : Claim} {held : Keyed Int InfluxCell}

def Compatible (xs : List Claim) : Prop :=
  ∀ x ∈ xs, ∀ y ∈ xs, x.cell.index = y.cell.index → x.cell.aquifer = y.cell.aquifer

instance (xs : List Claim) : Decidable (Compatible xs) :=
  inferInstanceAs (Decidable (∀ x ∈ xs, ∀ y ∈ xs, _ → _))

/-- A claim is for the same aquifer as all earlier claims of its cell. -/
def Agrees (ys : List Claim) (x : Claim) : Prop :=
  ∀ y ∈ ys, y.cell.index = x.cell.index → y.cell.aquifer = x.cell.aquifer

theorem compatible_iff_eachAfter : Compatible xs ↔ EachAfter Agrees xs := by
  induction xs using List.reverseRecOn with
  | nil => exact ⟨fun _ ↦ eachAfter_nil, fun _ ↦ List.forall_mem_nil _⟩
  | append_singleton xs x ih =>
    rw [eachAfter_concat, ← ih]
    simp only [Compatible, Agrees, List.forall_mem_append, List.forall_mem_singleton]
    constructor
    · exact fun ⟨h, _⟩ ↦ ⟨fun y hy ↦ (h y hy).1, fun y hy ↦ (h y hy).2⟩
    · intro h
      obtain ⟨hxs, hx⟩ := h
      exact ⟨fun y hy ↦ ⟨hxs y hy, hx y hy⟩, fun y hy he ↦ (hx y hy he.symm).symm, fun _ ↦ trivial⟩

def lasts : List Claim → List Claim
  | [] => []
  | x :: xs => if x.cell.index ∈ xs.map (·.cell.index) then lasts xs else x :: lasts xs

theorem lasts_concat (xs : List Claim) (x : Claim) :
    lasts (xs ++ [x]) = (lasts xs).filter (fun y ↦ y.cell.index ≠ x.cell.index) ++ [x] := by
  induction xs with
  | nil => rfl
  | cons y ys ih =>
    have hmem : y.cell.index ∈ (ys ++ [x]).map (·.cell.index) ↔
        y.cell.index ∈ ys.map (·.cell.index) ∨ y.cell.index = x.cell.index := by
      rw [List.map_append, List.mem_append, List.map_singleton, List.mem_singleton]
    rw [List.cons_append, lasts, lasts, ih]
    by_cases hys : y.cell.index ∈ ys.map (·.cell.index)
    · rw [if_pos (hmem.mpr (Or.inl hys)), if_pos hys]
    · rw [if_neg hys, List.filter_cons]
      by_cases hx : y.cell.index = x.cell.index
      · rw [if_pos (hmem.mpr (Or.inr hx)), if_neg (by simp [hx])]
      · rw [if_neg (mt hmem.mp (not_or.mpr ⟨hys, hx⟩)), if_pos (by simp [hx]), List.cons_append]

theorem lasts_sublist (xs : List Claim) : (lasts xs).Sublist xs := by
  induction xs with
  | nil => exact .slnil
  | cons x xs ih =>
    rw [lasts]
    split
    · exact ih.cons x
    · exact ih.cons_cons x

theorem mem_lasts (hx : x.cell.index ∉ xs.map (·.cell.index)) (ys : List Claim) :
    x ∈ lasts (ys ++ x :: xs) := by
  induction ys with
  | nil =>
    rw [List.nil_append, lasts, if_neg hx]
    exact List.mem_cons_self ..
  | cons y ys ih =>
    rw [List.cons_append, lasts]
    split
    · exact ih
    · exact List.mem_cons_of_mem y ih

theorem index_mem_lasts {n : Int} :
    n ∈ (lasts xs).map (·.cell.index) ↔ n ∈ xs.map (·.cell.index) := by
  induction xs with
  | nil => rfl
  | cons x xs ih =>
    rw [lasts, List.map_cons, List.mem_cons]
    split
    · rename_i hx
      rw [ih]
      exact ⟨Or.inr, fun h ↦ h.elim (fun hn ↦ hn ▸ hx) id⟩
    · rw [List.map_cons, List.mem_cons, ih]

theorem nodup_index_lasts (xs : List Claim) : ((lasts xs).map (·.cell.index)).Nodup := by
  induction xs with
  | nil => exact List.nodup_nil
  | cons x xs ih =>
    rw [lasts]
    split
    · exact ih
    · rename_i hx
      exact List.nodup_cons.mpr ⟨fun h ↦ hx (index_mem_lasts.mp h), ih⟩

section Settle

structure Settled (run : Traced (Keyed Int InfluxCell)) (xs : List Claim)
    (held : Keyed Int InfluxCell) : Prop where
  result : run.result = .ok held
  entries : held.entries = (lasts xs).map fun x ↦ (x.cell.index, x.cell)
  again : ∀ e ∈ run.events, ∃ c id, e = .claimedAgain c id
  length : xs.length = held.size + run.events.length

variable {run : Traced (Keyed Int InfluxCell)}

theorem foldlM_record_concat (held : Keyed Int InfluxCell) (xs : List Claim) (x : Claim) :
    (xs ++ [x]).foldlM record held = xs.foldlM record held >>= fun held ↦ record held x := by
  rw [List.foldlM_append]
  congr
  funext held
  rw [List.foldlM_cons]
  exact bind_pure _

theorem Settled.get?_eq_none (h : Settled run xs held) {n : Int} (hn : held.get? n = none) :
    n ∉ xs.map (·.cell.index) := by
  rw [Keyed.get?_eq_none_iff, Keyed.keys, h.entries, List.map_map] at hn
  exact fun hx ↦ hn (index_mem_lasts.mpr hx)

theorem Settled.exists_of_get? (h : Settled run xs held) {n : Int} {c : InfluxCell}
    (hc : held.get? n = some c) : ∃ x ∈ xs, x.cell.index = n ∧ x.cell = c := by
  have hmem := Keyed.mem_of_get? hc
  rw [h.entries] at hmem
  obtain ⟨x, hx, he⟩ := List.mem_map.mp hmem
  obtain ⟨hn, hcell⟩ := Prod.mk.inj he
  exact ⟨x, (lasts_sublist xs).mem hx, hn, hcell⟩

theorem Settled.filter_entries (h : Settled run xs held) (x : Claim) :
    held.entries.filter (fun e ↦ e.1 ≠ x.cell.index) ++ [(x.cell.index, x.cell)] =
      (lasts (xs ++ [x])).map fun x ↦ (x.cell.index, x.cell) := by
  rw [lasts_concat, h.entries, List.map_append, List.filter_map]
  rfl

theorem record_of_get?_eq_none (h : held.get? x.cell.index = none) :
    record held x = ⟨[], .ok (held.insert x.cell.index x.cell)⟩ := by
  rw [record, h]
  rfl

theorem record_of_get?_eq_some {c : InfluxCell} (h : held.get? x.cell.index = some c)
    (hc : c.aquifer = x.cell.aquifer) : record held x =
      ⟨[.claimedAgain x.place.oneBased x.cell.aquifer],
        .ok ((held.erase x.cell.index).insert x.cell.index x.cell)⟩ := by
  rw [record, h]
  simp only [hc, ne_eq, not_true_eq_false, if_false]
  rfl

theorem record_of_aquifer_ne {c : InfluxCell} (h : held.get? x.cell.index = some c)
    (hc : c.aquifer ≠ x.cell.aquifer) : (record held x).result =
      .error (.issue ⟨c.aquifer, some x.place.oneBased, .sharedCell x.cell.aquifer⟩) := by
  rw [record, h]
  simp only [ne_eq, hc, not_false_eq_true, if_true]
  rfl

theorem Settled.concat (h : Settled run xs held) (hx : Agrees xs x) :
    ∃ next, Settled (run >>= fun held ↦ record held x) (xs ++ [x]) next := by
  rw [Traced.bind_of_result h.result]
  cases hget : held.get? x.cell.index with
  | none =>
    -- the cell is new, so there is nothing to take out before its claim goes to the end
    have hkey : x.cell.index ∉ held.keys := Keyed.get?_eq_none_iff.mp hget
    have hentries := Keyed.entries_insert_of_not_mem (a := x.cell) hkey
    have hfilter : held.entries.filter (fun e ↦ e.1 ≠ x.cell.index) = held.entries :=
      List.filter_eq_self.mpr fun e he ↦
        decide_eq_true fun hk ↦ hkey (hk ▸ List.mem_map_of_mem he)
    rw [record_of_get?_eq_none hget, List.append_nil]
    refine ⟨_, rfl, ?_, h.again, ?_⟩
    · rw [hentries, ← h.filter_entries x, hfilter]
    · rw [Keyed.size, hentries, List.length_append, List.length_append, h.length, Keyed.size]
      simp only [List.length_singleton]
      omega
  | some c =>
    -- the cell only moves, and the note makes up for the claim that is lost
    obtain ⟨y, hy, hindex, rfl⟩ := h.exists_of_get? hget
    have hentries := Keyed.entries_insert_erase held x.cell.index x.cell
    have hkey : x.cell.index ∈ held.keys :=
      Keyed.mem_keys_iff.mpr (Option.isSome_iff_exists.mpr ⟨_, hget⟩)
    have hsize := Keyed.size_erase hkey
    rw [record_of_get?_eq_some hget (hx y hy hindex)]
    refine ⟨_, rfl, hentries.trans (h.filter_entries x), ?_, ?_⟩
    · rw [List.forall_mem_append, List.forall_mem_singleton]
      exact ⟨h.again, _, _, rfl⟩
    · rw [Keyed.size] at hsize
      rw [Keyed.size, hentries, List.length_append, List.length_append, List.length_append,
        h.length, ← hsize]
      simp only [List.length_singleton, Keyed.erase]
      omega

theorem exists_settled (h : Compatible xs) : ∃ held, Settled (xs.foldlM record ∅) xs held := by
  rw [compatible_iff_eachAfter] at h
  induction xs using List.reverseRecOn with
  | nil => exact ⟨∅, rfl, rfl, List.forall_mem_nil _, rfl⟩
  | append_singleton xs x ih =>
    obtain ⟨hxs, hx⟩ := eachAfter_concat.mp h
    obtain ⟨held, hheld⟩ := ih hxs
    rw [foldlM_record_concat]
    exact hheld.concat hx

/-- The issue names the first claim of a cell that another aquifer claimed before. -/
def Conflict (xs : List Claim) (i : Issue) : Prop :=
  ∃ ys y zs, xs = ys ++ y :: zs ∧ Compatible ys ∧ ∃ x ∈ ys, x.cell.index = y.cell.index ∧
    x.cell.aquifer ≠ y.cell.aquifer ∧
    i = ⟨x.cell.aquifer, some y.place.oneBased, .sharedCell y.cell.aquifer⟩

/-- The holder of a cell is the aquifer of every earlier claim of it, so that a claim that does not
agree with one of them is refused. -/
theorem Settled.result_record (h : Settled run xs held) (hxs : Compatible xs) (hx : x ∈ xs)
    (hindex : x.cell.index = y.cell.index) (hne : x.cell.aquifer ≠ y.cell.aquifer) :
    (record held y).result =
      .error (.issue ⟨x.cell.aquifer, some y.place.oneBased, .sharedCell y.cell.aquifer⟩) := by
  cases hget : held.get? y.cell.index with
  | none => exact absurd (hindex ▸ List.mem_map_of_mem hx) (h.get?_eq_none hget)
  | some c =>
    obtain ⟨z, hz, hzindex, rfl⟩ := h.exists_of_get? hget
    have haquifer : z.cell.aquifer = x.cell.aquifer := hxs z hz x hx (hzindex.trans hindex.symm)
    rw [record_of_aquifer_ne hget (haquifer ▸ hne), haquifer]

/-- If two aquifers claim a cell, then the first claim that shows it is reported. -/
theorem exists_conflict (h : ¬Compatible xs) :
    ∃ i, Conflict xs i ∧ (xs.foldlM record ∅).result = .error (.issue i) := by
  rw [compatible_iff_eachAfter] at h
  obtain ⟨ys, y, zs, rfl, hys, hy⟩ := (eachAfter_or_exists Agrees xs).resolve_left h
  rw [← compatible_iff_eachAfter] at hys
  obtain ⟨held, hheld⟩ := exists_settled hys
  simp only [Agrees, not_forall] at hy
  obtain ⟨x, hx, hindex, hne⟩ := hy
  refine ⟨_, ⟨ys, y, zs, rfl, hys, x, hx, hindex, hne, rfl⟩, ?_⟩
  rw [List.foldlM_append, Traced.result_bind, hheld.result, Except.ok_bind, List.foldlM_cons,
    Traced.result_bind, hheld.result_record hys hx hindex hne]
  rfl

end Settle

end Claim

namespace Influx

open Claim

variable {xs : List Claim} {held : Keyed Int InfluxCell} {run : Traced (Keyed Int InfluxCell)}

/-- Every claimed cell is an influx cell once, of its aquifer and as it was claimed last; no list is
empty, and all are in the order of the last claims. -/
structure Holds (x : Influx) (xs : List Claim) : Prop where
  ids : x.cells.keys = ((lasts xs).map (·.cell.aquifer)).eraseDups
  lists : ∀ id, (x.cells.get? id).getD [] = ((lasts xs).map (·.cell)).filter (·.aquifer = id)
  nonempty : ∀ e ∈ x.cells.entries, e.2 ≠ []
  once : (x.toList.map (·.index)).Nodup
  last : ∀ ys y zs, xs = ys ++ y :: zs → y.cell.index ∉ zs.map (·.cell.index) →
    y.cell ∈ (x.cells.get? y.cell.aquifer).getD []

theorem values_of_settled (h : Settled run xs held) : held.values = (lasts xs).map (·.cell) := by
  rw [Keyed.values, h.entries, List.map_map]
  rfl

theorem toList_ofCells_perm (cs : List InfluxCell) : (ofCells cs).toList.Perm cs := by
  rw [ofCells_eq]
  exact Keyed.flatten_values_group_perm _ cs

theorem ofCells_nonempty (cs : List InfluxCell) :
    ∀ e ∈ (ofCells cs).cells.entries, e.2 ≠ [] := by
  rw [ofCells_eq]
  exact Keyed.ne_nil_of_mem_group

theorem holds_ofCells (h : Settled run xs held) : (ofCells held.values).Holds xs := by
  have hlists : ∀ id, ((ofCells held.values).cells.get? id).getD [] =
      ((lasts xs).map (·.cell)).filter (·.aquifer = id) := by
    intro id
    rw [ofCells_eq, Keyed.getD_group, values_of_settled h]
  refine ⟨?_, hlists, ofCells_nonempty _, ?_, ?_⟩
  · rw [ofCells_eq, Keyed.keys_group, values_of_settled h, List.map_map]
    rfl
  · rw [((toList_ofCells_perm held.values).map _).nodup_iff, values_of_settled h, List.map_map]
    exact nodup_index_lasts xs
  · rintro ys y zs rfl hy
    rw [hlists, List.mem_filter]
    exact ⟨List.mem_map_of_mem (mem_lasts hy ys), decide_eq_true rfl⟩

variable {d : Deck} {g : Grid} {ts : List ClaimTerms}

theorem ofDeck_eq (h : (d.records "AQUANCON").mapM ClaimTerms.ofRecord = .ok ts) :
    ofDeck d g = (ts.flatMap (·.claims g)).foldlM record ∅ >>= fun held ↦
      pure (ofCells held.values) := by
  have hclaims : (d.records "AQUANCON").mapM (Claim.ofRecord g) =
      .ok (ts.map (·.claims g)) := by
    rw [Except.mapM_eq_ok_iff, List.forall₂_map_right_iff]
    exact (Except.mapM_eq_ok_iff.mp h).imp fun _ _ ↦ ClaimTerms.ofRecord_eq_claims
  rw [List.flatMap, foldlM_flatten, ofDeck, ← Traced.foldlM_of_mapM hclaims]
  rfl

theorem index_eq_iff_place_eq : ∀ x ∈ ts.flatMap (·.claims g), ∀ y ∈ ts.flatMap (·.claims g),
    x.cell.index = y.cell.index ↔ x.place = y.place := by
  intro x hx y hy
  obtain ⟨t, -, hx⟩ := List.mem_flatMap.mp hx
  obtain ⟨u, -, hy⟩ := List.mem_flatMap.mp hy
  exact (ClaimTerms.numbers_of_mem_claims hx).eq_iff (ClaimTerms.numbers_of_mem_claims hy)

/-- Where all faces and flags can be read, a deck has influx cells just if no cell is claimed for
two aquifers; they are the cells claimed last, and the first claim of a cell for a second aquifer is
reported if there is one. -/
theorem ofDeck_settles_claims (hd : d.Built) (hr : ∀ r ∈ d.records "AQUANCON",
    r.HasFace "FACE" ∧ r.HasFlag "CONNECT_ADJOINING_ACTIVE_CELL") :
    ∃ ts xs, (d.records "AQUANCON").mapM ClaimTerms.ofRecord = .ok ts ∧
      List.Forall₂ (fun r t ↦ ClaimTerms.Describes t r) (d.records "AQUANCON") ts ∧
      xs = ts.flatMap (·.claims g) ∧
      (∀ x ∈ xs, ∀ y ∈ xs, x.cell.index = y.cell.index ↔ x.place = y.place) ∧
      ((∃ x, (ofDeck d g).result = .ok x) ↔ Compatible xs) ∧
      (∀ x, (ofDeck d g).result = .ok x → x.Holds xs ∧
        (∀ e ∈ (ofDeck d g).events, ∃ c id, e = .claimedAgain c id) ∧
        xs.length = x.size + (ofDeck d g).events.length) ∧
      ∀ f, (ofDeck d g).result = .error f → ∃ i, f = .issue i ∧ Conflict xs i := by
  obtain ⟨ts, hts⟩ := Except.exists_mapM_eq_ok fun r (hmem : r ∈ d.records "AQUANCON") ↦
    ClaimTerms.exists_ofRecord (hd.conforms rfl hmem) (hr r hmem).1 (hr r hmem).2
  have hdescribes : List.Forall₂ (fun r t ↦ ClaimTerms.Describes t r) (d.records "AQUANCON") ts :=
    Except.forall₂_of_mapM hts fun r hmem t ht ↦
      ClaimTerms.describes_of_ofRecord (hd.conforms rfl hmem) ht
  refine ⟨ts, _, hts, hdescribes, rfl, index_eq_iff_place_eq, ?_⟩
  rw [ofDeck_eq hts]
  by_cases hxs : Compatible (ts.flatMap (·.claims g))
  · obtain ⟨held, hheld⟩ := exists_settled hxs
    rw [Traced.bind_of_result hheld.result]
    refine ⟨⟨fun _ ↦ hxs, fun _ ↦ ⟨_, rfl⟩⟩, ?_, ?_⟩
    · intro x hx
      cases Except.ok.inj hx
      simp only [Traced.events_pure, List.append_nil]
      refine ⟨holds_ofCells hheld, hheld.again, ?_⟩
      rw [hheld.length, size, (toList_ofCells_perm held.values).length_eq, Keyed.values,
        List.length_map, Keyed.size]
    · intro f hf
      cases hf
  · obtain ⟨i, hi, hresult⟩ := exists_conflict hxs
    rw [Traced.result_bind, hresult]
    refine ⟨⟨?_, fun h ↦ absurd h hxs⟩, ?_, ?_⟩
    · intro h
      obtain ⟨x, hx⟩ := h
      cases hx
    · intro x hx
      cases hx
    · intro f hf
      cases Except.error.inj hf
      exact ⟨i, rfl, hi⟩

section Overlapping

def overlappingDeck : Deck :=
  .ofRows .field [(.aquancon, [.claim 7 ⟨1, 2, 0⟩ ⟨2, 3, 1⟩ "K-", .claim 8 ⟨4, 1, 2⟩ ⟨9, 1, 2⟩ "I+",
    .claim 7 ⟨2, 3, 1⟩ ⟨3, 5, 2⟩ "J+" (.real 6.0)])]

theorem built_overlappingDeck : overlappingDeck.Built :=
  Deck.built_ofRows rfl rfl

theorem ofDeck_settles_claims_overlapping :
    let narrow : Double := 2.0 * 3.0 * 2.0
    let given : Double := (6.0 * (UnitSystem.foot * UnitSystem.foot) + 0.0) * 2.0
    ∃ x, (ofDeck overlappingDeck .block).result = .ok x ∧ x.cells.keys = [7, 8] ∧
      ((x.cells.get? 7).getD []).map (fun c ↦ (c.index, c.coefficient)) =
        [(4, narrow), (5, narrow), (8, narrow), (9, given), (10, given), (21, given),
          (22, given)] ∧
      9 = x.size + (ofDeck overlappingDeck .block).events.length := by
  intro narrow given
  have hclaims : ∀ r ∈ overlappingDeck.records "AQUANCON",
      r.HasFace "FACE" ∧ r.HasFlag "CONNECT_ADJOINING_ACTIVE_CELL" := by
    have hrecords : overlappingDeck.records "AQUANCON" =
      [.ofItems (.claim 7 ⟨1, 2, 0⟩ ⟨2, 3, 1⟩ "K-") .aquancon .field,
        .ofItems (.claim 8 ⟨4, 1, 2⟩ ⟨9, 1, 2⟩ "I+") .aquancon .field,
        .ofItems (.claim 7 ⟨2, 3, 1⟩ ⟨3, 5, 2⟩ "J+" (.real 6.0)) .aquancon .field] := rfl
    rw [hrecords, List.forall_mem_cons, List.forall_mem_cons, List.forall_mem_singleton]
    exact ⟨⟨⟨_, _, rfl, rfl⟩, ⟨_, _, rfl, rfl⟩⟩, ⟨⟨_, _, rfl, rfl⟩, ⟨_, _, rfl, rfl⟩⟩,
      ⟨⟨_, _, rfl, rfl⟩, ⟨_, _, rfl, rfl⟩⟩⟩
  obtain ⟨ts, xs, hts, -, rfl, -, hiff, hholds, -⟩ :=
    ofDeck_settles_claims (g := .block) built_overlappingDeck hclaims
  cases Except.ok.inj hts
  obtain ⟨x, hx⟩ := hiff.mpr (by decide +kernel)
  obtain ⟨hx', -, hlength⟩ := hholds x hx
  refine ⟨x, hx, hx'.ids, ?_, hlength⟩
  rw [hx'.lists]
  rfl

end Overlapping

end Influx

end Aquifer
