import Aquifer.Proofs.Deck.Record
import Aquifer.Proofs.Grid.Cells
import Mathlib.Data.List.Sort

namespace Aquifer

/-- Whether records of the keyword always have an integer under a name. -/
def KeywordSchema.hasNumber (schema : KeywordSchema) (name : String) : Bool :=
  (schema.items.find? (·.name == name)).any fun s ↦ s.type == .int && s.filled && s.wellTyped

theorem KeywordSchema.exists_of_hasNumber {schema : KeywordSchema} {name : String}
    (h : schema.hasNumber name = true) : ∃ s, schema.items.find? (·.name == name) = some s ∧
      s.type = .int ∧ s.filled = true ∧ s.wellTyped = true := by
  rw [hasNumber, Option.any_eq_true] at h
  obtain ⟨s, hs, h⟩ := h
  rw [Bool.and_eq_true, Bool.and_eq_true, beq_iff_eq] at h
  exact ⟨s, hs, h.1.1, h.1.2, h.2⟩

namespace Record.Conforms

variable {r : Record} {schema : KeywordSchema} {name : String}

theorem exists_number (h : r.Conforms schema) (hname : schema.hasNumber name = true) :
    ∃ n, r.int name = .ok n := by
  obtain ⟨s, hs, htype, hfilled, -⟩ := KeywordSchema.exists_of_hasNumber hname
  exact h.exists_int name hs htype (Or.inl hfilled)

theorem hasInt_of_number (h : r.Conforms schema) (hname : schema.hasNumber name = true) {n : Int}
    (hn : r.int name = .ok n) : r.HasInt name n := by
  obtain ⟨s, hs, htype, -, hwell⟩ := KeywordSchema.exists_of_hasNumber hname
  exact h.hasInt_of_int name hs htype hwell hn

end Record.Conforms

def between (a b : Int) : List Int := (List.range (b + 1 - a).toNat).map fun (n : Nat) ↦ a + n

theorem mem_between {a b x : Int} : x ∈ between a b ↔ a ≤ x ∧ x ≤ b := by
  simp only [between, List.mem_map, List.mem_range]
  constructor
  · intro h
    obtain ⟨n, hn, rfl⟩ := h
    omega
  · intro h
    obtain ⟨ha, hb⟩ := h
    exact ⟨(x - a).toNat, by omega, by omega⟩

theorem pairwise_between (a b : Int) : (between a b).Pairwise (· < ·) := by
  rw [between, List.pairwise_map]
  refine List.pairwise_lt_range.imp fun h ↦ ?_
  omega

theorem pairwise_span (a b : Int) (n : Nat) : (span a b n).Pairwise (· < ·) := by
  rw [span, List.pairwise_map]
  exact (List.pairwise_lt_range' 1).imp Int.ofNat_lt.mpr

theorem span_eq_filter (a b : Int) (n : Nat) :
    span a b n = (between a b).filter fun (x : Int) ↦ 0 ≤ x ∧ x < n := by
  refine (pairwise_span a b n).eq_of_mem_iff ((pairwise_between a b).filter _) fun x ↦ ?_
  rw [Box.mem_span, List.mem_filter, mem_between, decide_eq_true_eq]
  omega

namespace Box

def places (b : Box) : List Coord :=
  (between b.first.k b.last.k).flatMap fun k ↦
    (between b.first.j b.last.j).flatMap fun j ↦
      (between b.first.i b.last.i).map fun i ↦ ⟨i, j, k⟩

theorem filter_flatMap_eq {α β : Type} {p : β → Bool} {q : α → Bool} {f h : α → List β}
    (hout : ∀ x, ¬q x = true → (f x).filter p = []) (hin : ∀ x, q x = true → (f x).filter p = h x)
    (xs : List α) : (xs.flatMap f).filter p = (xs.filter q).flatMap h := by
  induction xs with
  | nil => rfl
  | cons x xs ih =>
    rw [List.flatMap_cons, List.filter_append, ih, List.filter_cons]
    split
    · rename_i hx
      rw [hin x hx, List.flatMap_cons]
    · rename_i hx
      rw [hout x hx, List.nil_append]

/-- The cells of a grid in a box are the box's places in the grid. -/
theorem cells_eq_filter (b : Box) (d : Dims) : b.cells d = b.places.filter d.contains := by
  simp only [cells, places, span_eq_filter]
  symm
  refine filter_flatMap_eq (fun k hk ↦ ?_)
    (fun k hk ↦ filter_flatMap_eq (fun j hj ↦ ?_) (fun j hj ↦ ?_) _) _
  · rw [List.filter_eq_nil_iff]
    intro c hc hin
    obtain ⟨j, -, hc⟩ := List.mem_flatMap.mp hc
    obtain ⟨i, -, rfl⟩ := List.mem_map.mp hc
    exact hk (decide_eq_true (Dims.contains_iff.mp hin).2.2)
  · rw [List.filter_eq_nil_iff]
    intro c hc hin
    obtain ⟨i, -, rfl⟩ := List.mem_map.mp hc
    exact hj (decide_eq_true (Dims.contains_iff.mp hin).2.1)
  · rw [List.filter_map]
    refine congrArg _ (List.filter_congr fun i _ ↦ ?_)
    rw [Function.comp_apply, Bool.eq_iff_iff, Dims.contains_iff, decide_eq_true_eq]
    exact ⟨fun h ↦ h.1, fun h ↦ ⟨h, of_decide_eq_true hj, of_decide_eq_true hk⟩⟩

def items : List String := ["I1", "I2", "J1", "J2", "K1", "K2"]

theorem exists_ofRecord {r : Record} {schema : KeywordSchema} (h : r.Conforms schema)
    (hs : ∀ name ∈ items, schema.hasNumber name = true) : ∃ b, ofRecord r = .ok b := by
  have hint : ∀ name ∈ items, ∃ n, r.int name = .ok n := fun name hname ↦
    h.exists_number (hs name hname)
  obtain ⟨i₁, hi₁⟩ := hint "I1" (by decide)
  obtain ⟨i₂, hi₂⟩ := hint "I2" (by decide)
  obtain ⟨j₁, hj₁⟩ := hint "J1" (by decide)
  obtain ⟨j₂, hj₂⟩ := hint "J2" (by decide)
  obtain ⟨k₁, hk₁⟩ := hint "K1" (by decide)
  obtain ⟨k₂, hk₂⟩ := hint "K2" (by decide)
  exact ⟨_, by rw [ofRecord, hi₁, hi₂, hj₁, hj₂, hk₁, hk₂]; rfl⟩

end Box

def Row.coupling (id : Int) (first last : Coord) (face : String) (internal : Raw := .missing) :
    Row :=
  ⟨[("ID", .int id), ("I1", .int first.i), ("I2", .int last.i), ("J1", .int first.j),
    ("J2", .int last.j), ("K1", .int first.k), ("K2", .int last.k), ("CONNECT_FACE", .text face),
    ("ALLOW_INTERNAL_CELLS", internal)],
    show ["ID", "I1", "I2", "J1", "J2", "K1", "K2", "CONNECT_FACE", "ALLOW_INTERNAL_CELLS"].Nodup
      by decide⟩

def Row.claim (id : Int) (first last : Coord) (face : String) (coefficient : Raw := .missing) :
    Row :=
  ⟨[("AQUIFER_ID", .int id), ("I1", .int first.i), ("I2", .int last.i), ("J1", .int first.j),
    ("J2", .int last.j), ("K1", .int first.k), ("K2", .int last.k), ("FACE", .text face),
    ("INFLUX_COEFF", coefficient), ("INFLUX_MULT", .real 2.0)],
    show ["AQUIFER_ID", "I1", "I2", "J1", "J2", "K1", "K2", "FACE", "INFLUX_COEFF",
      "INFLUX_MULT"].Nodup by decide⟩

/-- The corners of the box are those of the record, which count from one. -/
structure Record.Spans (r : Record) (b : Box) : Prop where
  i₁ : r.HasInt "I1" (b.first.i + 1)
  i₂ : r.HasInt "I2" (b.last.i + 1)
  j₁ : r.HasInt "J1" (b.first.j + 1)
  j₂ : r.HasInt "J2" (b.last.j + 1)
  k₁ : r.HasInt "K1" (b.first.k + 1)
  k₂ : r.HasInt "K2" (b.last.k + 1)

theorem Box.spans_of_ofRecord {r : Record} {schema : KeywordSchema} {b : Box}
    (h : r.Conforms schema) (hs : ∀ name ∈ items, schema.hasNumber name = true)
    (hb : ofRecord r = .ok b) : r.Spans b := by
  simp only [ofRecord, Except.bind_eq_ok_iff] at hb
  obtain ⟨i₁, hi₁, i₂, hi₂, j₁, hj₁, j₂, hj₂, k₁, hk₁, k₂, hk₂, hb⟩ := hb
  cases hb
  have hint {name : String} (hname : name ∈ items) {n : Int} (hn : r.int name = .ok n) :
      r.HasInt name (n - 1 + 1) := by
    rw [Int.sub_add_cancel]
    exact h.hasInt_of_number (hs name hname) hn
  exact ⟨hint (by decide) hi₁, hint (by decide) hi₂, hint (by decide) hj₁, hint (by decide) hj₂,
    hint (by decide) hk₁, hint (by decide) hk₂⟩

end Aquifer
