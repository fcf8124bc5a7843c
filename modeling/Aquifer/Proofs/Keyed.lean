import Aquifer.Keyed
import Mathlib.Data.List.Basic
import Mathlib.Data.List.Induction
import Mathlib.Data.List.Perm.Subperm

namespace Aquifer

namespace Keyed

variable {κ α : Type} [DecidableEq κ] {m n : Keyed κ α} {k : κ} {a : α}

theorem get?_eq_none_iff : m.get? k = none ↔ k ∉ m.keys := by
  rw [mem_keys_iff, contains, Bool.not_eq_true, Option.isSome_eq_false_iff,
    Option.isNone_iff_eq_none]

theorem get?_of_mem {e : κ × α} (h : e ∈ m.entries) : m.get? e.1 = some e.2 := by
  obtain ⟨es, hes⟩ := m
  simp only [get?] at h ⊢
  induction es with
  | nil => exact nomatch h
  | cons d es ih =>
    simp only [List.map_cons, List.nodup_cons] at hes
    rcases List.mem_cons.mp h with rfl | h
    · rw [List.lookup_cons, beq_self_eq_true]
    · have hne : e.1 ≠ d.1 := by
        intro he
        exact hes.1 (he ▸ List.mem_map_of_mem h)
      rw [show d = (d.1, d.2) from rfl, lookup_cons_of_ne hne]
      exact ih hes.2 h

omit [DecidableEq κ] in
theorem nodup_keys (m : Keyed κ α) : m.keys.Nodup := m.nodup

theorem mem_of_get? (h : m.get? k = some a) : (k, a) ∈ m.entries := by
  have hk : k ∈ m.keys := by
    by_contra hk
    rw [get?_eq_none_iff.mpr hk] at h
    exact nomatch h
  obtain ⟨e, he, rfl⟩ := List.mem_map.mp hk
  rw [get?_of_mem he] at h
  cases h
  exact he

theorem lookup_map_key (key : α → κ) (k : κ) (xs : List α) :
    (xs.map fun x ↦ (key x, x)).lookup k = xs.find? (key · = k) := by
  induction xs with
  | nil => rfl
  | cons x xs ih =>
    rw [List.map_cons, List.find?_cons]
    by_cases h : key x = k
    · simp [h]
    · rw [lookup_cons_of_ne (Ne.symm h), ih, decide_eq_false h]

theorem entries_eq_filterMap (m : Keyed κ α) :
    m.entries = m.keys.filterMap fun k ↦ (m.get? k).map (k, ·) := by
  rw [keys, List.filterMap_map]
  have h : ∀ e ∈ m.entries,
      ((fun k ↦ (m.get? k).map (k, ·)) ∘ Prod.fst) e = some e := by
    intro e he
    simp only [Function.comp_apply, get?_of_mem he, Option.map_some]
  rw [List.filterMap_congr h, List.filterMap_some]

/-- Maps with the same keys in the same order and the same value for each are equal. -/
theorem ext_get? (hk : m.keys = n.keys) (h : ∀ k, m.get? k = n.get? k) : m = n := by
  apply Keyed.ext
  rw [entries_eq_filterMap m, entries_eq_filterMap n, hk]
  simp only [h]

theorem putEntry_of_not_mem {es : List (κ × α)} (h : k ∉ es.map Prod.fst) :
    putEntry k a es = es ++ [(k, a)] := by
  induction es with
  | nil => rfl
  | cons e es ih =>
    simp only [List.map_cons, List.mem_cons, not_or] at h
    rw [putEntry, if_neg (Ne.symm h.1), ih h.2, List.cons_append]

theorem entries_insert_of_not_mem (h : k ∉ m.keys) :
    (m.insert k a).entries = m.entries ++ [(k, a)] :=
  putEntry_of_not_mem h

theorem mem_keys_insert (m : Keyed κ α) (k l : κ) (a : α) :
    l ∈ (m.insert k a).keys ↔ l ∈ m.keys ∨ l = k := by
  rw [keys_insert]
  split
  · rename_i hk
    exact ⟨Or.inl, fun h ↦ h.elim id fun h ↦ h ▸ hk⟩
  · rw [List.mem_append, List.mem_singleton]

theorem not_mem_keys_insert {es : List (κ × α)} (h : ∀ e ∈ es, e.1 ∉ m.keys)
    (hk : k ∉ es.map Prod.fst) : ∀ e ∈ es, e.1 ∉ (m.insert k a).keys := by
  intro e he hmem
  rcases (mem_keys_insert m k e.1 a).mp hmem with hmem | hmem
  · exact h e he hmem
  · exact hk (hmem ▸ List.mem_map_of_mem he)

theorem entries_foldl_insert {es : List (κ × α)} (hes : (es.map Prod.fst).Nodup)
    (h : ∀ e ∈ es, e.1 ∉ m.keys) :
    (es.foldl (fun m e ↦ m.insert e.1 e.2) m).entries = m.entries ++ es := by
  induction es generalizing m with
  | nil => exact (List.append_nil _).symm
  | cons e es ih =>
    simp only [List.map_cons, List.nodup_cons] at hes
    rw [List.forall_mem_cons] at h
    rw [List.foldl_cons, ih hes.2 (not_mem_keys_insert h.2 hes.1), entries_insert_of_not_mem h.1,
      List.append_assoc]
    rfl

theorem entries_ofList {es : List (κ × α)} (h : (es.map Prod.fst).Nodup) :
    (ofList es).entries = es := by
  rw [ofList, entries_foldl_insert h fun _ _ ↦ List.not_mem_nil]
  rfl

theorem ofList_entries (m : Keyed κ α) : ofList m.entries = m :=
  Keyed.ext (entries_ofList m.nodup)

theorem ofList_eq {es : List (κ × α)} (h : es = m.entries) : ofList es = m := by
  rw [h, ofList_entries]

theorem putEntry_subperm (k : κ) (a : α) (es : List (κ × α)) :
    (putEntry k a es).Subperm ((k, a) :: es) := by
  induction es with
  | nil => exact List.Subperm.refl _
  | cons e es ih =>
    rw [putEntry]
    split
    · exact (List.Sublist.cons_cons _ (List.sublist_cons_self e es)).subperm
    · exact ((List.subperm_cons e).mpr ih).trans (List.Perm.swap (k, a) e es).subperm

theorem mem_entries_insert {e : κ × α} (h : e ∈ (m.insert k a).entries) :
    e = (k, a) ∨ e ∈ m.entries :=
  List.mem_cons.mp ((putEntry_subperm k a m.entries).subset h)

theorem entries_foldl_insert_subperm (es : List (κ × α)) (m : Keyed κ α) :
    (es.foldl (fun m e ↦ m.insert e.1 e.2) m).entries.Subperm (es ++ m.entries) := by
  induction es generalizing m with
  | nil => exact List.Subperm.refl _
  | cons e es ih =>
    refine (ih (m.insert e.1 e.2)).trans ?_
    have hinsert := (List.subperm_append_left es).mpr (putEntry_subperm e.1 e.2 m.entries)
    exact hinsert.trans List.perm_middle.subperm

/-- A map built from entries has some of them, each at most as often. -/
theorem entries_ofList_subperm (es : List (κ × α)) : (ofList es).entries.Subperm es := by
  have h := entries_foldl_insert_subperm es (∅ : Keyed κ α)
  rwa [show (∅ : Keyed κ α).entries = [] from rfl, List.append_nil] at h

theorem values_ofList_subperm (key : α → κ) (as : List α) :
    (ofList (as.map fun a ↦ (key a, a))).values.Subperm as := by
  obtain ⟨es, hperm, hsub⟩ := entries_ofList_subperm (as.map fun a ↦ (key a, a))
  have hvalues := hsub.map Prod.snd
  rw [List.map_map, show Prod.snd ∘ (fun a ↦ (key a, a)) = id from rfl, List.map_id] at hvalues
  exact ⟨es.map Prod.snd, hperm.map Prod.snd, hvalues⟩

theorem key_of_mem_ofList {key : α → κ} {as : List α} :
    ∀ e ∈ (ofList (as.map fun a ↦ (key a, a))).entries, key e.2 = e.1 := by
  intro e he
  obtain ⟨a, -, rfl⟩ := List.mem_map.mp ((entries_ofList_subperm _).subset he)
  rfl

omit [DecidableEq κ] in
theorem nodup_map_values {key : α → κ} (h : ∀ e ∈ m.entries, key e.2 = e.1) :
    (m.values.map key).Nodup := by
  have hkeys : m.values.map key = m.keys := by
    rw [values, List.map_map]
    exact List.map_congr_left h
  exact hkeys ▸ m.nodup_keys

theorem ofList_values {key : α → κ} (h : ∀ e ∈ m.entries, key e.2 = e.1) :
    ofList (m.values.map fun a ↦ (key a, a)) = m := by
  apply ofList_eq
  rw [values, List.map_map]
  refine (List.map_congr_left fun e he ↦ ?_).trans (List.map_id _)
  exact Prod.ext (h e he) rfl

theorem insert_insert (m : Keyed κ α) (k : κ) (a b : α) :
    (m.insert k a).insert k b = m.insert k b := by
  apply ext_get?
  · rw [keys_insert, if_pos ((mem_keys_insert m k k a).mpr (Or.inr rfl)), keys_insert, keys_insert]
  · intro l
    simp only [get?_insert]
    split <;> rfl

/-- Of parts laid end to end, those with the name of an entry are the entry's parts. -/
theorem filter_flatMap {β γ : Type} {name : γ → κ} {parts : γ → List β} {key : β → κ}
    {es : List γ} (hes : (es.map name).Nodup) (h : ∀ e ∈ es, ∀ x ∈ parts e, key x = name e) {e : γ}
    (he : e ∈ es) : (es.flatMap parts).filter (fun x ↦ key x = name e) = parts e := by
  induction es with
  | nil => exact nomatch he
  | cons d es ih =>
    rw [List.map_cons, List.nodup_cons] at hes
    rw [List.forall_mem_cons] at h
    rw [List.flatMap_cons, List.filter_append]
    rcases List.mem_cons.mp he with rfl | he
    · have hnone : (es.flatMap parts).filter (fun x ↦ key x = name e) = [] := by
        simp only [List.filter_eq_nil_iff, List.mem_flatMap, decide_eq_true_eq]
        intro x h' hkey
        obtain ⟨d, hd, hx⟩ := h'
        rw [h.2 d hd x hx] at hkey
        exact hes.1 (hkey ▸ List.mem_map_of_mem hd)
      have hall : (parts e).filter (fun x ↦ key x = name e) = parts e :=
        List.filter_eq_self.mpr fun x hx ↦ decide_eq_true (h.1 x hx)
      rw [hnone, hall, List.append_nil]
    · have hnone : (parts d).filter (fun x ↦ key x = name e) = [] := by
        simp only [List.filter_eq_nil_iff, decide_eq_true_eq]
        intro x hx hkey
        rw [h.1 x hx] at hkey
        exact hes.1 (hkey ▸ List.mem_map_of_mem he)
      rw [hnone, List.nil_append]
      exact ih hes.2 h.2 he

theorem size_erase (h : k ∈ m.keys) : (m.erase k).size + 1 = m.size := by
  have hsize : ∀ m : Keyed κ α, m.size = m.keys.length := fun m ↦ (List.length_map _).symm
  have herase : (m.erase k).keys = m.keys.erase k := by
    rw [keys_erase, m.nodup_keys.erase_eq_filter]
    refine List.filter_congr fun l _ ↦ ?_
    by_cases hl : l = k <;> simp [hl]
  rw [hsize, hsize, herase, List.length_erase_of_mem h]
  have hpos := List.length_pos_of_mem h
  omega

/-- Taking a key out and putting it in again moves it to the end. -/
theorem entries_insert_erase (m : Keyed κ α) (k : κ) (a : α) :
    ((m.erase k).insert k a).entries = m.entries.filter (fun e ↦ e.1 ≠ k) ++ [(k, a)] := by
  rw [entries_insert_of_not_mem]
  · rfl
  · rw [keys_erase, List.mem_filter]
    simp

section Group

variable {m : Keyed κ (List α)} {key : α → κ}

theorem get?_push (m : Keyed κ (List α)) (k l : κ) (a : α) :
    (m.push k a).get? l = if l = k then some ((m.get? k).getD [] ++ [a]) else m.get? l :=
  get?_insert m k l _

theorem keys_push (m : Keyed κ (List α)) (k : κ) (a : α) :
    (m.push k a).keys = if k ∈ m.keys then m.keys else m.keys ++ [k] :=
  keys_insert m k _

theorem getD_push (m : Keyed κ (List α)) (k l : κ) (a : α) :
    ((m.push k a).get? l).getD [] = (m.get? l).getD [] ++ if k = l then [a] else [] := by
  rw [get?_push]
  by_cases h : l = k
  · rw [if_pos h, if_pos h.symm, h]
    rfl
  · rw [if_neg h, if_neg (Ne.symm h), List.append_nil]

/-- A value that is added to the list of its key leaves all values in the lists of their keys. -/
theorem key_of_mem_push {m : Keyed κ (List α)} (h : ∀ e ∈ m.entries, ∀ x ∈ e.2, key x = e.1)
    (x : α) : ∀ e ∈ (m.push (key x) x).entries, ∀ y ∈ e.2, key y = e.1 := by
  intro e he y hy
  rcases mem_entries_insert he with rfl | he
  · rcases List.mem_append.mp hy with hy | hy
    · cases hget : m.get? (key x) with
      | none =>
        rw [hget] at hy
        exact absurd hy List.not_mem_nil
      | some ys =>
        rw [hget] at hy
        exact h _ (mem_of_get? hget) y hy
    · rw [List.mem_singleton.mp hy]
  · exact h e he y hy

def pushAll (m : Keyed κ (List α)) (key : α → κ) (xs : List α) : Keyed κ (List α) :=
  xs.foldl (fun m x ↦ m.push (key x) x) m

def group (key : α → κ) (xs : List α) : Keyed κ (List α) := pushAll ∅ key xs

theorem pushAll_append (m : Keyed κ (List α)) (xs ys : List α) :
    m.pushAll key (xs ++ ys) = (m.pushAll key xs).pushAll key ys :=
  List.foldl_append

theorem group_concat (xs : List α) (x : α) :
    group key (xs ++ [x]) = (group key xs).push (key x) x :=
  pushAll_append ∅ xs [x]

theorem getD_pushAll (m : Keyed κ (List α)) (xs : List α) (k : κ) :
    ((m.pushAll key xs).get? k).getD [] = (m.get? k).getD [] ++ xs.filter fun x ↦ key x = k := by
  induction xs generalizing m with
  | nil => exact (List.append_nil _).symm
  | cons x xs ih =>
    show (((m.push (key x) x).pushAll key xs).get? k).getD [] = _
    rw [ih, getD_push, List.append_assoc, List.filter_cons]
    by_cases h : key x = k
    · simp only [h, if_true, decide_true, List.singleton_append]
    · simp only [h, if_false, decide_false, List.nil_append, Bool.false_eq_true]

/-- An empty list put in for a missing key. -/
theorem getD_ensured (m : Keyed κ (List α)) (k l : κ) :
    ((if m.contains k then m else m.insert k []).get? l).getD [] = (m.get? l).getD [] := by
  split
  · rfl
  · rename_i hnew
    rw [get?_insert]
    split
    · rename_i hl
      rw [hl, get?_eq_none_iff.mpr fun hk ↦ hnew (mem_keys_iff.mp hk)]
      rfl
    · rfl

theorem mem_keys_ensured (m : Keyed κ (List α)) (k l : κ) :
    l ∈ (if m.contains k then m else m.insert k []).keys ↔ l ∈ m.keys ∨ l = k := by
  split
  · rename_i hold
    exact ⟨Or.inl, fun h ↦ h.elim id fun h ↦ h ▸ mem_keys_iff.mpr hold⟩
  · exact mem_keys_insert m k l []

theorem mem_keys_pushAll (h : k ∈ m.keys) (xs : List α) : k ∈ (m.pushAll key xs).keys := by
  induction xs generalizing m with
  | nil => exact h
  | cons x xs ih => exact ih ((mem_keys_insert m (key x) k _).mpr (Or.inl h))

theorem eraseDups_concat (ks : List κ) (k : κ) :
    (ks ++ [k]).eraseDups = if k ∈ ks then ks.eraseDups else ks.eraseDups ++ [k] := by
  rw [List.eraseDups_append]
  by_cases h : k ∈ ks <;> simp [List.removeAll, List.eraseDups_cons, h]

theorem keys_group (xs : List α) : (group key xs).keys = (xs.map key).eraseDups := by
  induction xs using List.reverseRecOn with
  | nil => rfl
  | append_singleton xs x ih =>
    rw [group_concat, keys_push, ih, List.map_append, List.map_singleton, eraseDups_concat]
    simp only [List.mem_eraseDups]

theorem getD_group (xs : List α) (k : κ) :
    ((group key xs).get? k).getD [] = xs.filter fun x ↦ key x = k :=
  getD_pushAll ∅ xs k

theorem entries_group (xs : List α) : (group key xs).entries =
    (xs.map key).eraseDups.map fun k ↦ (k, xs.filter fun x ↦ key x = k) := by
  rw [entries_eq_filterMap, ← keys_group, ← List.filterMap_eq_map]
  refine List.filterMap_congr fun k hk ↦ ?_
  obtain ⟨ys, hys⟩ := Option.isSome_iff_exists.mp (mem_keys_iff.mp hk)
  rw [Function.comp_apply, ← getD_group, hys]
  rfl

theorem ne_nil_of_mem_group {xs : List α} : ∀ e ∈ (group key xs).entries, e.2 ≠ [] := by
  rw [entries_group]
  intro e he hnil
  obtain ⟨k, hk, rfl⟩ := List.mem_map.mp he
  rw [List.mem_eraseDups] at hk
  obtain ⟨x, hx, rfl⟩ := List.mem_map.mp hk
  exact List.filter_eq_nil_iff.mp hnil x hx (decide_eq_true rfl)

theorem flatMap_filter_perm {ks : List κ} (hks : ks.Nodup) (key : α → κ) (xs : List α) :
    (ks.flatMap fun k ↦ xs.filter fun x ↦ key x = k).Perm (xs.filter fun x ↦ key x ∈ ks) := by
  induction ks with
  | nil => simp
  | cons k ks ih =>
    rw [List.nodup_cons] at hks
    have hk : (xs.filter fun x ↦ key x ∈ k :: ks).filter (fun x ↦ key x = k) =
        xs.filter fun x ↦ key x = k := by
      rw [List.filter_filter]
      refine List.filter_congr fun x _ ↦ ?_
      by_cases hx : key x = k <;> simp [hx]
    have hrest : (xs.filter fun x ↦ key x ∈ k :: ks).filter (fun x ↦ !decide (key x = k)) =
        xs.filter fun x ↦ key x ∈ ks := by
      rw [List.filter_filter]
      refine List.filter_congr fun x _ ↦ ?_
      by_cases hx : key x = k
      · simp [hx, hks.1]
      · simp [hx]
    rw [List.flatMap_cons]
    refine ((ih hks.2).append_left _).trans ?_
    rw [← hk, ← hrest]
    exact List.filter_append_perm _ _

theorem flatten_values_group_perm (key : α → κ) (xs : List α) :
    (group key xs).values.flatten.Perm xs := by
  have hvalues : (group key xs).values.flatten =
      (xs.map key).eraseDups.flatMap fun k ↦ xs.filter fun x ↦ key x = k := by
    rw [values, entries_group, List.map_map]
    rfl
  have hkeys : (group key xs).keys = (xs.map key).eraseDups := keys_group xs
  have hnodup : (xs.map key).eraseDups.Nodup := hkeys ▸ (group key xs).nodup
  have hall : (xs.filter fun x ↦ key x ∈ (xs.map key).eraseDups) = xs :=
    List.filter_eq_self.mpr fun x hx ↦
      decide_eq_true (List.mem_eraseDups.mpr (List.mem_map_of_mem hx))
  rw [hvalues]
  exact (flatMap_filter_perm hnodup key xs).trans (.of_eq hall)

theorem pushAll_insert {k : κ} {xs : List α} (h : ∀ x ∈ xs, key x = k) (ys : List α) :
    (m.insert k ys).pushAll key xs = m.insert k (ys ++ xs) := by
  induction xs generalizing ys with
  | nil => exact congrArg _ (List.append_nil ys).symm
  | cons x xs ih =>
    have hx : key x = k := h x (List.mem_cons_self ..)
    have hpush : (m.insert k ys).push (key x) x = m.insert k (ys ++ [x]) := by
      rw [push, hx, get?_insert, if_pos rfl, insert_insert]
      rfl
    show ((m.insert k ys).push (key x) x).pushAll key xs = _
    rw [hpush, ih (fun y hy ↦ h y (List.mem_cons_of_mem _ hy)), List.append_assoc]
    rfl

theorem pushAll_of_not_mem {k : κ} {xs : List α} (hxs : xs ≠ []) (h : ∀ x ∈ xs, key x = k)
    (hk : k ∉ m.keys) : m.pushAll key xs = m.insert k xs := by
  cases xs with
  | nil => exact absurd rfl hxs
  | cons x xs =>
    have hx : key x = k := h x (List.mem_cons_self ..)
    have hpush : m.push (key x) x = m.insert k [x] := by
      rw [push, hx, get?_eq_none_iff.mpr hk]
      rfl
    show (m.push (key x) x).pushAll key xs = _
    rw [hpush, pushAll_insert fun y hy ↦ h y (List.mem_cons_of_mem _ hy)]
    rfl

/-- Grouping the values of a map again gives the map, if none of its lists is empty. -/
theorem group_flatten_values (h : ∀ e ∈ m.entries, ∀ x ∈ e.2, key x = e.1)
    (hne : ∀ e ∈ m.entries, e.2 ≠ []) : group key m.values.flatten = m := by
  have hpush : ∀ (es : List (κ × List α)) (n : Keyed κ (List α)), (es.map Prod.fst).Nodup →
      (∀ e ∈ es, e.1 ∉ n.keys) → (∀ e ∈ es, ∀ x ∈ e.2, key x = e.1) → (∀ e ∈ es, e.2 ≠ []) →
      n.pushAll key (es.map Prod.snd).flatten = es.foldl (fun n e ↦ n.insert e.1 e.2) n := by
    intro es
    induction es with
    | nil => exact fun _ _ _ _ _ ↦ rfl
    | cons e es ih =>
      intro n hnodup hkeys hown hne
      simp only [List.map_cons, List.nodup_cons] at hnodup
      simp only [List.forall_mem_cons] at hkeys hown hne
      rw [List.map_cons, List.flatten_cons, pushAll_append,
        pushAll_of_not_mem hne.1 hown.1 hkeys.1, List.foldl_cons,
        ih _ hnodup.2 (not_mem_keys_insert hkeys.2 hnodup.1) hown.2 hne.2]
  rw [group, values, hpush _ _ m.nodup (fun _ _ ↦ List.not_mem_nil) h hne]
  exact ofList_entries m

end Group

end Keyed

end Aquifer
