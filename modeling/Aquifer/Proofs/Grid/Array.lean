import Aquifer.Proofs.Grid.Properties

namespace Aquifer

/-- Of lists of one length laid end to end, an entry is found by the list's number and its own. -/
theorem getElem?_flatten_of_length {α : Type} {xss : List (List α)} {n : Nat}
    (h : ∀ xs ∈ xss, xs.length = n) {i j : Nat} (hj : j < n) :
    xss.flatten[i * n + j]? = xss[i]?.bind (·[j]?) := by
  induction xss generalizing i with
  | nil => rfl
  | cons xs xss ih =>
    rw [List.forall_mem_cons] at h
    rw [List.flatten_cons]
    cases i with
    | zero =>
      have hlt : 0 * n + j < xs.length := by omega
      rw [List.getElem?_append_left hlt, Nat.zero_mul, Nat.zero_add]
      rfl
    | succ i =>
      have hle : xs.length ≤ (i + 1) * n + j := by
        rw [Nat.succ_mul]
        omega
      have hrest : (i + 1) * n + j - xs.length = i * n + j := by
        rw [Nat.succ_mul]
        omega
      rw [List.getElem?_append_right hle, hrest, ih h.2]
      rfl

namespace Raw

def at? : Raw → List Nat → Option Raw
  | x, [] => some x
  | .list xs, i :: is => xs[i]?.bind (·.at? is)
  | _, _ :: _ => none

def number : (shape place : List Nat) → Nat
  | _ :: s, i :: is => i * s.prod + number s is
  | _, _ => 0

theorem number_lt_prod {s is : List Nat} (h : List.Forall₂ (· < ·) is s) :
    number s is < s.prod := by
  induction h with
  | nil => exact Nat.one_pos
  | @cons i n is s hi _ ih =>
    rw [number, List.prod_cons]
    have hmul : (i + 1) * s.prod ≤ n * s.prod := Nat.mul_le_mul_right _ hi
    rw [Nat.succ_mul] at hmul
    omega

theorem scalarsOf_eq (xs : List Raw) : scalarsOf xs = (xs.map scalars).flatten := by
  induction xs with
  | nil => rfl
  | cons x xs ih => rw [scalarsOf, ih, List.map_cons, List.flatten_cons]

theorem shape?_of_mem {xs : List Raw} {s : List Nat} (h : commonShape? xs = some s) :
    ∀ x ∈ xs, x.shape? = some s := by
  induction xs generalizing s with
  | nil => exact List.forall_mem_nil _
  | cons x xs ih =>
    cases xs with
    | nil => exact List.forall_mem_singleton.mpr h
    | cons y xs =>
      rw [commonShape?] at h
      split at h
      · rename_i t u ht hu
        split at h
        · rename_i heq
          cases heq
          cases Option.some.inj h
          exact List.forall_mem_cons.mpr ⟨ht, ih hu⟩
        · cases h
      · cases h
      · intro hnil
        cases hnil

theorem scalars_of_shape?_nil {x : Raw} (h : x.shape? = some []) : x.scalars = [x] := by
  cases x with
  | list xs =>
    rw [shape?, Option.map_eq_some_iff] at h
    obtain ⟨t, -, ht⟩ := h
    cases ht
  | _ => rfl

/-- Within the shape of an array there is an entry at every place, and it is written down under the
place's number. -/
theorem exists_at? {x : Raw} {s is : List Nat} (hx : x.shape? = some s)
    (h : List.Forall₂ (· < ·) is s) :
    ∃ y, x.at? is = some y ∧ x.scalars[number s is]? = some y := by
  induction h generalizing x with
  | nil => exact ⟨x, rfl, by rw [scalars_of_shape?_nil hx]; rfl⟩
  | @cons i n is s hi hrest ih =>
    cases x with
    | list xs =>
      rw [shape?, Option.map_eq_some_iff] at hx
      obtain ⟨t, hcommon, hs⟩ := hx
      cases hs
      have hentries := shape?_of_mem hcommon
      obtain ⟨y, hat, hscalar⟩ := ih (hentries xs[i] (List.getElem_mem hi))
      refine ⟨y, ?_, ?_⟩
      · rw [at?, List.getElem?_eq_getElem hi]
        exact hat
      · have hlengths : ∀ ys ∈ xs.map scalars, ys.length = s.prod :=
          List.forall_mem_map.mpr fun x hx ↦ length_scalars (hentries x hx)
        rw [scalars, scalarsOf_eq, number,
          getElem?_flatten_of_length hlengths (number_lt_prod hrest), List.getElem?_map,
          List.getElem?_eq_getElem hi]
        exact hscalar
    | _ => cases hx

end Raw

end Aquifer
