
namespace Aquifer

def putEntry {κ α : Type} [DecidableEq κ] (k : κ) (a : α) : List (κ × α) → List (κ × α)
  | [] => [(k, a)]
  | e :: es => if e.1 = k then (k, a) :: es else e :: putEntry k a es

theorem keys_putEntry {κ α : Type} [DecidableEq κ] (k : κ) (a : α) (es : List (κ × α)) :
    (putEntry k a es).map Prod.fst =
      if k ∈ es.map Prod.fst then es.map Prod.fst else es.map Prod.fst ++ [k] := by
  induction es with
  | nil => rfl
  | cons e es ih =>
    by_cases h : e.1 = k
    · simp [putEntry, h]
    · have h' : ¬k = e.1 := fun h' ↦ h h'.symm
      simp only [putEntry, h, if_false, List.map_cons, ih, List.mem_cons, h', false_or]
      split <;> simp

theorem lookup_cons_of_ne {κ α : Type} [DecidableEq κ] {k l : κ} (h : l ≠ k) (a : α)
    (es : List (κ × α)) : ((k, a) :: es).lookup l = es.lookup l := by
  rw [List.lookup_cons, beq_eq_false_iff_ne.mpr h]

theorem lookup_putEntry {κ α : Type} [DecidableEq κ] (k l : κ) (a : α) (es : List (κ × α)) :
    (putEntry k a es).lookup l = if l = k then some a else es.lookup l := by
  induction es with
  | nil =>
    by_cases h : l = k
    · simp [putEntry, h]
    · simp [putEntry, lookup_cons_of_ne, h]
  | cons e es ih =>
    obtain ⟨m, b⟩ := e
    by_cases hk : m = k
    · by_cases hl : l = k <;> simp [putEntry, hk, lookup_cons_of_ne, hl]
    · by_cases hl : l = m
      · simp [putEntry, hk, hl]
      · simp [putEntry, hk, lookup_cons_of_ne, hl, ih]

theorem mem_fst_iff_lookup {κ α : Type} [DecidableEq κ] (k : κ) (es : List (κ × α)) :
    k ∈ es.map Prod.fst ↔ (es.lookup k).isSome = true := by
  induction es with
  | nil => simp
  | cons e es ih =>
    obtain ⟨m, b⟩ := e
    by_cases h : k = m
    · simp [h]
    · simp only [List.map_cons, List.mem_cons, h, false_or, ih, lookup_cons_of_ne h]

/-- Entries with pairwise different keys, in the order in which the keys came. -/
@[ext] structure Keyed (κ α : Type) where
  entries : List (κ × α)
  nodup : (entries.map Prod.fst).Nodup

namespace Keyed

variable {κ α β : Type}

def empty : Keyed κ α := ⟨[], List.nodup_nil⟩

instance : EmptyCollection (Keyed κ α) := ⟨empty⟩

instance : Inhabited (Keyed κ α) := ⟨empty⟩

def keys (m : Keyed κ α) : List κ := m.entries.map Prod.fst

def values (m : Keyed κ α) : List α := m.entries.map Prod.snd

def size (m : Keyed κ α) : Nat := m.entries.length

def mapValues (f : κ → α → β) (m : Keyed κ α) : Keyed κ β where
  entries := m.entries.map fun e ↦ (e.1, f e.1 e.2)
  nodup := by rw [List.map_map]; exact m.nodup

variable [DecidableEq κ]

def get? (m : Keyed κ α) (k : κ) : Option α := m.entries.lookup k

def contains (m : Keyed κ α) (k : κ) : Bool := (m.get? k).isSome

/-- The map with a value for a key, in the old place if the key had one and at the end if not. -/
def insert (m : Keyed κ α) (k : κ) (a : α) : Keyed κ α where
  entries := putEntry k a m.entries
  nodup := by
    rw [keys_putEntry]
    split
    · exact m.nodup
    · rename_i h
      refine List.nodup_append.2 ⟨m.nodup, by simp, fun x hx y hy ↦ ?_⟩
      simp only [List.mem_cons, List.not_mem_nil, or_false] at hy
      rintro rfl
      exact h (hy ▸ hx)

def erase (m : Keyed κ α) (k : κ) : Keyed κ α where
  entries := m.entries.filter fun e ↦ e.1 ≠ k
  nodup := m.nodup.sublist (List.filter_sublist.map Prod.fst)

def ofList (es : List (κ × α)) : Keyed κ α := es.foldl (fun m e ↦ m.insert e.1 e.2) empty

def push (m : Keyed κ (List α)) (k : κ) (a : α) : Keyed κ (List α) :=
  m.insert k ((m.get? k).getD [] ++ [a])

/-- Whether two maps give equal values to the same keys, in whatever order. -/
def same [BEq α] (m n : Keyed κ α) : Bool :=
  m.size == n.size && m.entries.all fun e ↦ (n.get? e.1).any (e.2 == ·)

instance [BEq α] : BEq (Keyed κ α) := ⟨same⟩

theorem keys_insert (m : Keyed κ α) (k : κ) (a : α) :
    (m.insert k a).keys = if k ∈ m.keys then m.keys else m.keys ++ [k] :=
  keys_putEntry k a m.entries

theorem get?_insert (m : Keyed κ α) (k l : κ) (a : α) :
    (m.insert k a).get? l = if l = k then some a else m.get? l :=
  lookup_putEntry k l a m.entries

theorem keys_erase (m : Keyed κ α) (k : κ) : (m.erase k).keys = m.keys.filter (· ≠ k) := by
  simp only [keys, erase, List.filter_map]
  rfl

theorem mem_keys_iff {m : Keyed κ α} {k : κ} : k ∈ m.keys ↔ m.contains k = true :=
  mem_fst_iff_lookup k m.entries

end Keyed

end Aquifer
