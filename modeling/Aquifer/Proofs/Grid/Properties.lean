import Aquifer.Grid.Properties
import Aquifer.Proofs.Keyed
import Aquifer.Proofs.Outcome
import Mathlib.Algebra.BigOperators.Group.List.Basic

namespace Aquifer

namespace Raw

mutual

theorem length_scalars {x : Raw} {s : List Nat} (h : x.shape? = some s) :
    x.scalars.length = s.prod := by
  cases x with
  | list xs =>
    rw [shape?, Option.map_eq_some_iff] at h
    obtain ⟨t, ht, rfl⟩ := h
    rw [scalars, length_scalarsOf ht, List.prod_cons]
  | _ =>
    cases Option.some.inj h
    rfl

theorem length_scalarsOf {xs : List Raw} {s : List Nat} (h : commonShape? xs = some s) :
    (scalarsOf xs).length = xs.length * s.prod := by
  match xs with
  | [] => exact (Nat.zero_mul _).symm
  | [x] =>
    rw [scalarsOf, scalarsOf, List.append_nil, length_scalars h, List.length_singleton,
      Nat.one_mul]
  | x :: y :: xs =>
    rw [commonShape?] at h
    split at h
    · rename_i t u ht hu
      split at h
      · rename_i heq
        cases heq
        cases Option.some.inj h
        rw [scalarsOf, List.length_append, length_scalars ht, length_scalarsOf hu,
          Nat.add_comm, ← Nat.succ_mul]
        rfl
      · exact nomatch h
    · exact nomatch h
    · exact nofun

end

end Raw

namespace Properties

variable {α : Type}

/-- There is one entry per active cell under every name, and the tables that default to one are
there. -/
structure Fits (p : Properties) (g : Grid) : Prop where
  reals : ∀ e ∈ p.reals.entries, e.2.length = g.activeCount
  tables : ∀ e ∈ p.tables.entries, e.2.length = g.activeCount
  defaults : ∀ name ∈ defaultTables, name ∈ p.tables.keys

theorem length_of_cellEntries {size : Nat} {convert : Raw → Except Fault α} {name : String}
    {x : Raw} {xs : List α} (h : cellEntries size convert name x = .ok xs) : xs.length = size := by
  obtain ⟨⟨found, ys⟩, harray, h⟩ := Except.bind_eq_ok_iff.mp h
  simp only at h
  split at h
  · rename_i hfound
    cases Except.ok.inj h
    rw [Raw.array] at harray
    split at harray
    · rename_i shape hshape
      split at harray
      · exact nomatch harray
      · obtain ⟨zs, hzs, harray⟩ := Except.bind_eq_ok_iff.mp harray
        cases Except.ok.inj harray
        have hlength := (Except.mapM_eq_ok_iff.mp hzs).length_eq
        rw [← hlength, Raw.length_scalars hshape, hfound, List.prod_singleton]
    · exact nomatch harray
  · exact nomatch h

theorem forall_entries_insert {κ β : Type} [DecidableEq κ] {m : Keyed κ β} {P : β → Prop}
    (h : ∀ e ∈ m.entries, P e.2) {k : κ} {b : β} (hb : P b) :
    ∀ e ∈ (m.insert k b).entries, P e.2 := by
  intro e he
  have hget := Keyed.get?_of_mem he
  rw [Keyed.get?_insert] at hget
  split at hget
  · exact Option.some.inj hget ▸ hb
  · exact h _ (Keyed.mem_of_get? hget)

theorem length_of_collect {size : Nat} {convert : Raw → Except Fault α} {arrays : Keyed String Raw}
    {m : Keyed String (List α)} (h : collect size convert arrays = .ok m) :
    ∀ e ∈ m.entries, e.2.length = size := by
  refine Except.foldlM_keeps (P := fun m ↦ ∀ e ∈ m.entries, e.2.length = size) ?_
    (List.forall_mem_nil _) h
  intro m e n hm hn
  obtain ⟨xs, hxs, hn⟩ := Except.bind_eq_ok_iff.mp hn
  cases Except.ok.inj hn
  exact forall_entries_insert (P := fun xs : List α ↦ xs.length = size) hm
    (length_of_cellEntries hxs)

theorem length_withDefault {size : Nat} {m : Keyed String (List Int)}
    (h : ∀ e ∈ m.entries, e.2.length = size) (name : String) :
    ∀ e ∈ (if m.contains name then m else m.insert name (List.replicate size 1)).entries,
      e.2.length = size := by
  split
  · exact h
  · exact forall_entries_insert (P := fun xs : List Int ↦ xs.length = size) h
      List.length_replicate

theorem mem_keys_withDefault (m : Keyed String (List Int)) (name : String) (xs : List Int)
    {other : String} (h : other = name ∨ other ∈ m.keys) :
    other ∈ (if m.contains name then m else m.insert name xs).keys := by
  split
  · rename_i hname
    exact h.elim (fun h ↦ h ▸ Keyed.mem_keys_iff.mpr hname) id
  · exact (Keyed.mem_keys_insert ..).mpr h.symm

theorem fits_of_ofArrays {g : Grid} {reals tables : Keyed String Raw} {p : Properties}
    (h : ofArrays g reals tables = .ok p) : p.Fits g := by
  obtain ⟨xs, hxs, h⟩ := Except.bind_eq_ok_iff.mp h
  obtain ⟨ns, hns, h⟩ := Except.bind_eq_ok_iff.mp h
  cases Except.ok.inj h
  refine ⟨length_of_collect hxs,
    length_withDefault (length_withDefault (length_of_collect hns) _) _, ?_⟩
  intro name hname
  rw [defaultTables, List.mem_cons, List.mem_singleton] at hname
  rcases hname with rfl | rfl
  · exact mem_keys_withDefault _ _ _ (Or.inr (mem_keys_withDefault _ _ _ (Or.inl rfl)))
  · exact mem_keys_withDefault _ _ _ (Or.inl rfl)

theorem atPlace_of_getElem? {xs : List α} {n : Nat} {x : α} (h : xs[n]? = some x) :
    atPlace xs n = .ok x := by
  obtain ⟨hn, -⟩ := List.getElem?_eq_some_iff.mp h
  rw [atPlace, place?_natCast hn, Option.bind_some, h]

theorem exists_atPlace {xs : List α} {n : Nat} (h : n < xs.length) :
    ∃ x, atPlace xs n = .ok x :=
  ⟨xs[n], atPlace_of_getElem? (List.getElem?_eq_getElem h)⟩

variable {p : Properties} {g : Grid} {n : Nat}

theorem Fits.exists_real (hp : p.Fits g) (name : String) (h : p.hasReal name = true)
    (hn : n < g.activeCount) : ∃ x, (p.real name >>= fun xs ↦ atPlace xs n) = .ok x := by
  rw [hasReal, Keyed.contains, Option.isSome_iff_exists] at h
  obtain ⟨xs, hxs⟩ := h
  have hlength : xs.length = g.activeCount := hp.reals _ (Keyed.mem_of_get? hxs)
  rw [real, hxs]
  exact exists_atPlace (hlength.symm ▸ hn)

theorem Fits.exists_table (hp : p.Fits g) (name : String) (h : Text.upper name ∈ defaultTables)
    (hn : n < g.activeCount) : ∃ x, (p.table name >>= fun xs ↦ atPlace xs n) = .ok x := by
  have hkey := Keyed.mem_keys_iff.mp (hp.defaults _ h)
  rw [Keyed.contains, Option.isSome_iff_exists] at hkey
  obtain ⟨xs, hxs⟩ := hkey
  have hlength : xs.length = g.activeCount := hp.tables _ (Keyed.mem_of_get? hxs)
  rw [table, hxs]
  exact exists_atPlace (hlength.symm ▸ hn)

end Properties

end Aquifer
