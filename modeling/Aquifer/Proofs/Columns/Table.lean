import Aquifer.Columns.Table
import Aquifer.Proofs.Outcome
import Aquifer.Proofs.Storable

namespace Aquifer

namespace Section

def Has (s : Section) (cols : List (String × Column)) : Prop := ∀ e ∈ cols, s.column e.1 = .ok e.2

theorem Has.append {s : Section} {cs ds : List (String × Column)} (h : s.Has (cs ++ ds)) :
    s.Has cs ∧ s.Has ds :=
  ⟨fun e he ↦ h e (List.mem_append_left _ he), fun e he ↦ h e (List.mem_append_right _ he)⟩

theorem Has.tail {s : Section} {e : String × Column} {cs : List (String × Column)}
    (h : s.Has (e :: cs)) : s.Has cs :=
  fun d hd ↦ h d (List.mem_cons_of_mem _ hd)

theorem Has.entry {s : Section} {name : String} {c : Column} {cs : List (String × Column)}
    (h : s.Has ((name, c) :: cs)) (n : Nat) : s.entry name n = c.row n := by
  rw [Section.entry, h _ (List.mem_cons_self ..)]
  rfl

structure Holds {α : Type} (s : Section) (t : Table α) (xs : List α) : Prop where
  rows : s.rows = xs.length
  columns : ∃ cols, t.columns xs = .ok cols ∧ s.Has cols

end Section

namespace Table

variable {α β : Type} {a : Table α} {b : Table β}

def Spreads (t : Table α) (P : α → Prop) : Prop :=
  ∀ xs, (∀ x ∈ xs, P x) → ∃ cols, t.columns xs = .ok cols

/-- Every value is gathered from its row of a section with the columns of all values. -/
def Gathers (t : Table α) : Prop :=
  ∀ xs cols s, t.columns xs = .ok cols → s.Has cols →
    ∀ (n : Nat) (x : α), xs[n]? = some x → t.row s n = .ok x

def Named (t : Table α) (names : List String) : Prop :=
  ∀ xs cols, t.columns xs = .ok cols → cols.map Prod.fst = names

theorem row_ints {xs : List Int} {n : Nat} {x : Int} (h : xs[n]? = some x) :
    (Column.ints xs).row n = .ok (.int x) := by
  simp only [Column.row, Column.row?, h, Option.map_some]

theorem row_reals {xs : List Double} {n : Nat} {x : Double} (h : xs[n]? = some x) :
    (Column.reals xs).row n = .ok (.real x) := by
  simp only [Column.row, Column.row?, h, Option.map_some]

theorem row_flags {xs : List Bool} {n : Nat} {x : Bool} (h : xs[n]? = some x) :
    (Column.flags xs).row n = .ok (.flag x) := by
  simp only [Column.row, Column.row?, h, Option.map_some]

theorem columns_int_eq_ok_iff {name : String} {xs : List Int} {cols : List (String × Column)} :
    (int name).columns xs = .ok cols ↔
      (∀ n ∈ xs, IntegerFits n) ∧ cols = [(name, .ints xs)] := by
  simp only [int, Except.bind_eq_ok_iff, Column.ofInts_eq_ok_iff]
  constructor
  · intro h
    obtain ⟨c, ⟨hx, rfl⟩, h⟩ := h
    exact ⟨hx, (Except.ok.inj h).symm⟩
  · intro h
    obtain ⟨hx, rfl⟩ := h
    exact ⟨_, ⟨hx, rfl⟩, rfl⟩

theorem spreads_int (name : String) : (int name).Spreads IntegerFits :=
  fun _ h ↦ ⟨_, columns_int_eq_ok_iff.mpr ⟨h, rfl⟩⟩

theorem gathers_int (name : String) : (int name).Gathers := by
  intro xs cols s h hs n x hx
  obtain ⟨-, rfl⟩ := columns_int_eq_ok_iff.mp h
  simp only [int, hs.entry, row_ints hx]
  rfl

theorem named_int (name : String) : (int name).Named [name] := by
  intro xs cols h
  obtain ⟨-, rfl⟩ := columns_int_eq_ok_iff.mp h
  rfl

theorem spreads_real (name : String) : (real name).Spreads fun _ ↦ True :=
  fun _ _ ↦ ⟨_, rfl⟩

theorem gathers_real (name : String) : (real name).Gathers := by
  intro xs cols s h hs n x hx
  cases Except.ok.inj h
  simp only [real, hs.entry, row_reals hx]
  rfl

theorem named_real (name : String) : (real name).Named [name] := by
  intro xs cols h
  cases Except.ok.inj h
  rfl

theorem spreads_flag (name : String) : (flag name).Spreads fun _ ↦ True :=
  fun _ _ ↦ ⟨_, rfl⟩

theorem gathers_flag (name : String) : (flag name).Gathers := by
  intro xs cols s h hs n x hx
  cases Except.ok.inj h
  simp only [flag, hs.entry, row_flags hx]
  rfl

theorem named_flag (name : String) : (flag name).Named [name] := by
  intro xs cols h
  cases Except.ok.inj h
  rfl

theorem spreads_optional (name : String) : (optional name).Spreads fun _ ↦ True :=
  fun _ _ ↦ ⟨_, rfl⟩

theorem gathers_optional (name : String) : (optional name).Gathers := by
  intro xs cols s h hs n x hx
  cases Except.ok.inj h
  have hvalue : (xs.map (·.getD 0.0))[n]? = some (x.getD 0.0) := by
    rw [List.getElem?_map, hx, Option.map_some]
  have hmask : (xs.map (·.isSome))[n]? = some x.isSome := by
    rw [List.getElem?_map, hx, Option.map_some]
  simp only [optional, hs.entry, hs.tail.entry, row_flags hmask, row_reals hvalue]
  cases x <;> rfl

theorem named_optional (name : String) : (optional name).Named [name, maskOf name] := by
  intro xs cols h
  cases Except.ok.inj h
  rfl

theorem columns_pair_eq_ok_iff {xs : List (α × β)} {cols : List (String × Column)} :
    (a.pair b).columns xs = .ok cols ↔ ∃ cs, a.columns (xs.map (·.1)) = .ok cs ∧
      ∃ ds, b.columns (xs.map (·.2)) = .ok ds ∧ cs ++ ds = cols := by
  simp only [Table.pair, Except.bind_eq_ok_iff]
  constructor
  · intro h
    obtain ⟨cs, hcs, ds, hds, h⟩ := h
    exact ⟨cs, hcs, ds, hds, Except.ok.inj h⟩
  · intro h
    obtain ⟨cs, hcs, ds, hds, h⟩ := h
    exact ⟨cs, hcs, ds, hds, congrArg Except.ok h⟩

theorem Spreads.of_imp {P Q : α → Prop} (h : a.Spreads P) (hPQ : ∀ x, Q x → P x) :
    a.Spreads Q :=
  fun xs hx ↦ h xs fun x hmem ↦ hPQ x (hx x hmem)

theorem Spreads.pair {P : α → Prop} {Q : β → Prop} (ha : a.Spreads P) (hb : b.Spreads Q) :
    (a.pair b).Spreads fun x ↦ P x.1 ∧ Q x.2 := by
  intro xs hx
  obtain ⟨cs, hcs⟩ := ha (xs.map (·.1)) (List.forall_mem_map.mpr fun x h ↦ (hx x h).1)
  obtain ⟨ds, hds⟩ := hb (xs.map (·.2)) (List.forall_mem_map.mpr fun x h ↦ (hx x h).2)
  exact ⟨cs ++ ds, columns_pair_eq_ok_iff.mpr ⟨cs, hcs, ds, hds, rfl⟩⟩

theorem Gathers.pair (ha : a.Gathers) (hb : b.Gathers) : (a.pair b).Gathers := by
  intro xs cols s h hs n x hx
  obtain ⟨cs, hcs, ds, hds, rfl⟩ := columns_pair_eq_ok_iff.mp h
  obtain ⟨hsc, hsd⟩ := hs.append
  have hfst := ha _ _ s hcs hsc n x.1 (by rw [List.getElem?_map, hx, Option.map_some])
  have hsnd := hb _ _ s hds hsd n x.2 (by rw [List.getElem?_map, hx, Option.map_some])
  simp only [Table.pair, hfst, hsnd]
  rfl

theorem Named.pair {ns ms : List String} (ha : a.Named ns) (hb : b.Named ms) :
    (a.pair b).Named (ns ++ ms) := by
  intro xs cols h
  obtain ⟨cs, hcs, ds, hds, rfl⟩ := columns_pair_eq_ok_iff.mp h
  rw [List.map_append, ha _ _ hcs, hb _ _ hds]

theorem Spreads.map {P : α → Prop} {form : α → β} {unform : β → α} (h : a.Spreads P) :
    (a.map form unform).Spreads fun y ↦ P (unform y) :=
  fun ys hy ↦ h (ys.map unform) (List.forall_mem_map.mpr hy)

theorem row_map {form : α → β} {unform : β → α} (h : a.Gathers) {ys : List β}
    {cols : List (String × Column)} {s : Section}
    (hcols : (a.map form unform).columns ys = .ok cols) (hs : s.Has cols) {n : Nat} {y : β}
    (hn : ys[n]? = some y) : (a.map form unform).row s n = .ok (form (unform y)) := by
  have hrow := h _ _ s hcols hs n (unform y) (by rw [List.getElem?_map, hn, Option.map_some])
  simp only [Table.map, hrow]
  rfl

theorem Gathers.map {form : α → β} {unform : β → α} (h : a.Gathers)
    (hy : ∀ y, form (unform y) = y) : (a.map form unform).Gathers := by
  intro ys cols s hcols hs n y hn
  rw [row_map h hcols hs hn, hy]

theorem Named.map {form : α → β} {unform : β → α} {ns : List String} (h : a.Named ns) :
    (a.map form unform).Named ns :=
  fun ys ↦ h (ys.map unform)

theorem Spreads.refine {P : α → Prop} {form : α → Except Fault β} {unform : β → α}
    (h : a.Spreads P) : (a.refine form unform).Spreads fun y ↦ P (unform y) :=
  fun ys hy ↦ h (ys.map unform) (List.forall_mem_map.mpr hy)

theorem Gathers.refine {form : α → Except Fault β} {unform : β → α} (h : a.Gathers)
    (hy : ∀ y, form (unform y) = .ok y) : (a.refine form unform).Gathers := by
  intro ys cols s hcols hs n y hn
  have hrow := h _ _ s hcols hs n (unform y) (by rw [List.getElem?_map, hn, Option.map_some])
  simp only [Table.refine, hrow]
  exact hy y

theorem Named.refine {form : α → Except Fault β} {unform : β → α} {ns : List String}
    (h : a.Named ns) : (a.refine form unform).Named ns :=
  fun ys ↦ h (ys.map unform)

end Table

namespace Section

variable {α β : Type}

theorem foldRows_eq_foldlM {row : Nat → Except Fault α} {step : β → α → Except Fault β}
    {xs : List α} {k : Nat} (h : ∀ n x, xs[n]? = some x → row (k + n) = .ok x) (b : β) :
    foldRows row step k xs.length b = xs.foldlM step b := by
  induction xs generalizing k b with
  | nil => rfl
  | cons x xs ih =>
    have hx : row k = .ok x := h 0 x rfl
    have hxs : ∀ n y, xs[n]? = some y → row (k + 1 + n) = .ok y := by
      intro n y hy
      rw [Nat.add_assoc, Nat.add_comm 1 n]
      exact h (n + 1) y hy
    simp only [List.length_cons, foldRows, hx, List.foldlM_cons]
    show (step b x >>= fun b ↦ foldRows row step (k + 1) xs.length b) = _
    simp only [ih hxs]

/-- Passing on the rows of a section that holds some values passes on the values. -/
theorem fold_eq_foldlM {s : Section} {t : Table α} {xs : List α} (h : s.Holds t xs)
    (ht : t.Gathers) (step : β → α → Except Fault β) (b : β) :
    s.fold t step b = xs.foldlM step b := by
  obtain ⟨cols, hcols, hs⟩ := h.columns
  rw [fold, h.rows]
  refine foldRows_eq_foldlM (fun n x hx ↦ ?_) b
  rw [Nat.zero_add]
  exact ht xs cols s hcols hs n x hx

end Section

end Aquifer
