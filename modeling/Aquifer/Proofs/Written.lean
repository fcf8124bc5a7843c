import Aquifer.Fault
import Mathlib.Algebra.Group.Nat.Defs

namespace Aquifer

namespace Number

def Writable (n : Int) : Prop := n.natAbs < 10 ^ maxDigits

theorem digitsWithin_iff {d n : Nat} : digitsWithin d n = true ↔ n < 10 ^ d := by
  induction d generalizing n with
  | zero => rw [digitsWithin, beq_iff_eq, pow_zero, Nat.lt_one_iff]
  | succ d ih =>
    have hpos : 0 < 10 ^ d := Nat.pow_pos (by decide)
    simp only [digitsWithin, Bool.or_eq_true, decide_eq_true_eq, ih, pow_succ]
    omega

theorem intText?_of_writable {n : Int} (h : Writable n) : intText? n = some (toString n) :=
  if_pos (digitsWithin_iff.mpr h)

theorem intText?_of_not_writable {n : Int} (h : ¬Writable n) : intText? n = none :=
  if_neg fun hn ↦ h (digitsWithin_iff.mp hn)

theorem isSome_intText?_iff {n : Int} : (intText? n).isSome = true ↔ Writable n := by
  by_cases h : Writable n
  · simp only [intText?_of_writable h, Option.isSome_some, h]
  · simp only [intText?_of_not_writable h, Option.isSome_none, h, Bool.false_eq_true]

theorem lt_pow_maxDigits {n : Nat} (h : n < 10) : n < 10 ^ maxDigits :=
  Nat.lt_of_lt_of_le h (Nat.le_pow (by decide))

theorem not_writable_pow : ¬Writable ((10 ^ maxDigits : Nat) : Int) := by
  rw [Writable, Int.natAbs_natCast]
  exact Nat.lt_irrefl _

end Number

theorem isSome_bind_iff {α β : Type} {x : Option α} {f : α → Option β} {P : Prop}
    (h : ∀ a ∈ x, ((f a).isSome = true ↔ P)) :
    (x >>= f).isSome = true ↔ x.isSome = true ∧ P := by
  cases x with
  | none => exact ⟨nofun, fun h ↦ nomatch h.1⟩
  | some a => exact (h a rfl).trans (and_iff_right rfl).symm

def Coord.numbers (c : Coord) : List Int := [c.i, c.j, c.k]

/-- A place can be written if all its coordinates can be. -/
theorem Coord.isSome_text_iff {c : Coord} :
    c.text.isSome = true ↔ ∀ n ∈ c.numbers, Number.Writable n := by
  rw [text, isSome_bind_iff fun _ _ ↦ isSome_bind_iff fun _ _ ↦ isSome_bind_iff
    fun _ _ ↦ iff_of_true rfl trivial, numbers, List.forall_mem_cons, List.forall_mem_cons,
    List.forall_mem_singleton, and_iff_left trivial]
  simp only [Number.isSome_intText?_iff]

namespace Issue

def cellNumbers (x : Issue) : List Int := x.cell.elim [] Coord.numbers

def numbers (x : Issue) : List Int :=
  x.aquifer :: match x.cause with
    | .nothingDeclared _ => []
    | .unspecified | .coupledTwice | .unusableCell _ => x.cellNumbers
    | .cellTaken other | .sharedCell other => x.cellNumbers ++ [other]

theorem isSome_cellText_iff {x : Issue} :
    x.cellText.isSome = true ↔ ∀ n ∈ x.cellNumbers, Number.Writable n := by
  rw [cellText, cellNumbers]
  cases x.cell with
  | none => exact iff_of_true rfl (List.forall_mem_nil _)
  | some c => rw [Option.isSome_map]; exact Coord.isSome_text_iff

theorem isSome_message_iff {x : Issue} :
    x.message.isSome = true ↔ ∀ n ∈ x.numbers, Number.Writable n := by
  have hcell {f : String → String} :
      (x.cellText >>= fun s ↦ (pure (f s) : Option String)).isSome = true ↔
        ∀ n ∈ x.cellNumbers, Number.Writable n :=
    (isSome_bind_iff fun _ _ ↦ iff_of_true rfl trivial).trans
      ((and_iff_left trivial).trans isSome_cellText_iff)
  have hother {other : Int} {f : String → String → String} :
      (x.cellText >>= fun s ↦ Number.intText? other >>= fun b ↦
        (pure (f s b) : Option String)).isSome = true ↔
        ∀ n ∈ x.cellNumbers ++ [other], Number.Writable n := by
    rw [isSome_bind_iff fun _ _ ↦ isSome_bind_iff fun _ _ ↦ iff_of_true rfl trivial,
      isSome_cellText_iff, Number.isSome_intText?_iff, List.forall_mem_append,
      List.forall_mem_singleton, and_iff_left trivial]
  rw [message, numbers, List.forall_mem_cons, ← Number.isSome_intText?_iff]
  refine isSome_bind_iff fun a _ ↦ ?_
  cases x.cause with
  | nothingDeclared what => exact iff_of_true rfl (List.forall_mem_nil _)
  | unspecified => exact hcell
  | coupledTwice => exact hcell
  | unusableCell reason => exact hcell
  | cellTaken other => exact hother
  | sharedCell other => exact hother

end Issue

/-- What is reported for a fault of a deck: an issue that shows an integer with too many digits is
reported as that, and everything else as it is. -/
inductive Fault.Reports : Fault → Fault → Prop
  | issue {i : Issue} (h : ∀ n ∈ i.numbers, Number.Writable n) : Reports (.issue i) (.issue i)
  | unwritable {i : Issue} (h : ∃ n ∈ i.numbers, ¬Number.Writable n) :
      Reports (.issue i) .notANumber
  | same {f : Fault} (h : ∀ i, f ≠ .issue i) : Reports f f

namespace Fault

theorem reported_issue_of_not {x : Issue} (h : ∃ n ∈ x.numbers, ¬Number.Writable n) :
    (Fault.issue x).reported = .notANumber := by
  obtain ⟨n, hn, hlong⟩ := h
  exact if_neg fun hsome ↦ hlong (Issue.isSome_message_iff.mp hsome n hn)

theorem reports_issue (x : Issue) : (Fault.issue x).Reports (Fault.issue x).reported := by
  by_cases h : ∃ n ∈ x.numbers, ¬Number.Writable n
  · rw [reported_issue_of_not h]
    exact .unwritable h
  · have hshort : ∀ n ∈ x.numbers, Number.Writable n := fun n hn ↦
      Classical.not_not.mp fun hlong ↦ h ⟨n, hn, hlong⟩
    have hreported : (Fault.issue x).reported = .issue x :=
      if_pos (Issue.isSome_message_iff.mpr hshort)
    rw [hreported]
    exact .issue hshort

end Fault

end Aquifer
