import Aquifer.Columns.File
import Aquifer.Proofs.Columns.Layout

namespace Aquifer

namespace Compression

/-- A setting under which columns of every size can be stored. -/
def Accepted (setting : Option String) : Prop :=
  setting = none ∨ setting = some "" ∨ ∃ c : Compression, setting = some c.name

theorem ofName_name (c : Compression) : ofName c.name = .ok c := by
  cases c <;> rfl

theorem Accepted.choose_ok {setting : Option String} (h : Accepted setting) (size : Nat) :
    ∃ z, choose setting size = .ok z := by
  rcases h with rfl | rfl | ⟨c, rfl⟩
  · exact ⟨none, rfl⟩
  · exact ⟨none, rfl⟩
  · rw [choose, ofName_name]
    split
    · exact ⟨some c, rfl⟩
    · exact ⟨none, rfl⟩

end Compression

namespace Location

def apart (p q : Location) : Bool := !beneath p q && !beneath q p

def Within (ps : List Location) (q : Location) : Prop := ∃ p ∈ ps, beneath p q = true

instance (ps : List Location) (q : Location) : Decidable (Within ps q) :=
  inferInstanceAs (Decidable (∃ p ∈ ps, beneath p q = true))

theorem beneath_append (p q : Location) : beneath p (p ++ q) = true :=
  List.isPrefixOf_iff_prefix.mpr (List.prefix_append p q)

theorem beneath_self (p : Location) : beneath p p = true :=
  List.isPrefixOf_iff_prefix.mpr (List.prefix_refl p)

theorem beneath_trans {p q r : Location} (hpq : beneath p q = true)
    (hqr : beneath q r = true) : beneath p r = true := by
  simp only [beneath, List.isPrefixOf_iff_prefix] at hpq hqr ⊢
  exact hpq.trans hqr

theorem within_singleton {p q : Location} : Within [p] q ↔ beneath p q = true :=
  ⟨fun ⟨_, hp, h⟩ ↦ List.mem_singleton.mp hp ▸ h, fun h ↦ ⟨p, List.mem_singleton_self p, h⟩⟩

theorem not_beneath_of_apart {p q r : Location} (h : apart p q = true)
    (hp : beneath p r = true) : ¬beneath q r = true := by
  intro hq
  simp only [apart, beneath, Bool.and_eq_true, Bool.not_eq_true', ← Bool.not_eq_true,
    List.isPrefixOf_iff_prefix] at h hp hq
  rcases List.prefix_or_prefix_of_prefix hp hq with hpq | hqp
  · exact h.1 hpq
  · exact h.2 hqp

theorem not_within_of_apart {ps qs : List Location} {r : Location}
    (h : ∀ p ∈ ps, ∀ q ∈ qs, apart p q = true) (hr : Within ps r) : ¬Within qs r := by
  intro h
  obtain ⟨q, hq, hqr⟩ := h
  obtain ⟨p, hp, hpr⟩ := hr
  exact not_beneath_of_apart (h p hp q hq) hpr hqr

end Location

open Location

namespace Fill

variable {x y : Fill Unit} {ps qs : List Location} {P Q : Store → Prop}

/-- From every store the step succeeds, changes nothing but what lies within `ps`, and leaves a
store for which `P` is true, as it is for every store that agrees with this one within `ps`. -/
def Establishes (x : Fill Unit) (ps : List Location) (P : Store → Prop) : Prop :=
  ∀ s, ∃ t, x s = .ok () t ∧ (∀ q, ¬Within ps q → t.get? q = s.get? q) ∧
    ∀ u : Store, (∀ q, Within ps q → u.get? q = t.get? q) → P u

/-- Whether or not the step succeeds, it changes nothing but what lies within `ps`; if it succeeds,
it leaves a store for which `P` is true, as it is for every store that agrees with this one within
`ps`. -/
structure Secures (x : Fill Unit) (ps : List Location) (P : Store → Prop) : Prop where
  done : ∀ {s t}, x s = .ok () t → (∀ q, ¬Within ps q → t.get? q = s.get? q) ∧
    ∀ u : Store, (∀ q, Within ps q → u.get? q = t.get? q) → P u
  failed : ∀ {s t e}, x s = .error e t → ∀ q, ¬Within ps q → t.get? q = s.get? q

theorem establishes_iff :
    x.Establishes ps P ↔ x.Secures ps P ∧ ∀ s, ∃ t, x s = .ok () t := by
  constructor
  · intro h
    refine ⟨⟨fun {s t} hrun ↦ ?_, fun {s t e} hrun ↦ ?_⟩, fun s ↦ (h s).imp fun _ ht ↦ ht.1⟩
    · obtain ⟨t', hrun', hP⟩ := h s
      cases hrun.symm.trans hrun'
      exact hP
    · obtain ⟨t', hrun', -⟩ := h s
      exact nomatch hrun.symm.trans hrun'
  · rintro ⟨h, hok⟩ s
    obtain ⟨t, hrun⟩ := hok s
    exact ⟨t, hrun, h.done hrun⟩

theorem Secures.of_imp (h : x.Secures ps P) (hPQ : ∀ s, P s → Q s) : x.Secures ps Q :=
  ⟨fun hrun ↦ (h.done hrun).imp id fun hP u hu ↦ hPQ u (hP u hu), h.failed⟩

theorem Secures.bind (hx : x.Secures ps P) (hy : y.Secures qs Q)
    (h : ∀ p ∈ ps, ∀ q ∈ qs, apart p q = true) :
    (x >>= fun _ ↦ y).Secures (ps ++ qs) fun s ↦ P s ∧ Q s := by
  have hps : ∀ q, Within ps q → Within (ps ++ qs) q :=
    fun q ⟨p, hp, hpq⟩ ↦ ⟨p, List.mem_append_left _ hp, hpq⟩
  have hqs : ∀ q, Within qs q → Within (ps ++ qs) q :=
    fun q ⟨p, hp, hpq⟩ ↦ ⟨p, List.mem_append_right _ hp, hpq⟩
  constructor
  · intro s u hrun
    obtain ⟨_, t, hrun, hrun'⟩ := EStateM.bind_eq_ok_iff.mp hrun
    obtain ⟨hframe, hP⟩ := hx.done hrun
    obtain ⟨hframe', hQ⟩ := hy.done hrun'
    refine ⟨fun q hq ↦ ?_, fun v hv ↦ ⟨hP v fun q hq ↦ ?_, hQ v fun q hq ↦ hv q (hqs q hq)⟩⟩
    · rw [hframe' q fun hin ↦ hq (hqs q hin), hframe q fun hin ↦ hq (hps q hin)]
    · rw [hv q (hps q hq), hframe' q (not_within_of_apart h hq)]
  · intro s u e hrun q hq
    rcases EStateM.bind_eq_error_iff.mp hrun with hrun | ⟨_, t, hrun, hrun'⟩
    · exact hx.failed hrun q fun hin ↦ hq (hps q hin)
    · rw [hy.failed hrun' q fun hin ↦ hq (hqs q hin), (hx.done hrun).1 q fun hin ↦ hq (hps q hin)]

theorem Establishes.bind (hx : x.Establishes ps P) (hy : y.Establishes qs Q)
    (h : ∀ p ∈ ps, ∀ q ∈ qs, apart p q = true) :
    (x >>= fun _ ↦ y).Establishes (ps ++ qs) fun s ↦ P s ∧ Q s := by
  rw [establishes_iff] at hx hy ⊢
  refine ⟨hx.1.bind hy.1 h, fun s ↦ ?_⟩
  obtain ⟨t, ht⟩ := hx.2 s
  obtain ⟨u, hu⟩ := hy.2 t
  exact ⟨u, EStateM.bind_eq_ok_iff.mpr ⟨(), t, ht, hu⟩⟩

end Fill

structure Store.Holds {α : Type} (s : Store) (p : Location) (t : Table α) (xs : List α) :
    Prop where
  rows : ∃ n, s.get? p = some n ∧ n.column = none ∧
    n.attributes.get? Columns.rowsName = some (.int xs.length)
  columns : ∃ cols, t.columns xs = .ok cols ∧ ∀ e ∈ cols, s.column (p ++ [e.1]) = .ok e.2

namespace Columns

variable {α : Type} {setting : Option String}

theorem Store.column_of_get? {s : Store} {p : Location} {c : Column} {z : Option Compression}
    (h : s.get? p = some { column := some (c, z) }) : s.column p = .ok c := by
  rw [Store.column, h]
  rfl

theorem run_column (p : Location) (c : Column) (s : Store) :
    Fill.column setting p c s = match Compression.choose setting c.size with
      | .ok z => .ok () (s.set p { column := some (c, z) })
      | .error e => .error e s := by
  rw [Fill.column]
  cases Compression.choose setting c.size <;> rfl

def fillColumns (setting : Option String) (p : Location) : List (String × Column) → Fill Unit
  | [] => pure ()
  | e :: cols => do
    Fill.column setting (p ++ [e.1]) e.2
    fillColumns setting p cols

theorem forIn_eq_fillColumns (p : Location) (cols : List (String × Column)) :
    (forIn cols PUnit.unit fun e _ ↦ do
      Fill.column setting (p ++ [e.1]) e.2
      pure (ForInStep.yield PUnit.unit) : Fill Unit) = fillColumns setting p cols := by
  induction cols with
  | nil => rfl
  | cons e cols ih =>
    rw [List.forIn_cons, bind_assoc, fillColumns, ← ih]
    rfl

theorem fillTable_of_columns {t : Table α} {xs : List α} {cols : List (String × Column)}
    (h : t.columns xs = .ok cols) (p : Location) (s : Store) :
    fillTable setting p t xs s = (fillColumns setting p cols >>= fun _ ↦
      Fill.annotate p rowsName (.int xs.length)) (s.set p {}) := by
  rw [fillTable, h, EStateM.bind_of_ok (rfl : Fill.ofExcept (.ok cols) s = .ok cols s),
    EStateM.bind_of_ok (rfl : Fill.group p s = .ok () (s.set p {})), ← forIn_eq_fillColumns]

/-- Columns that were all stored can be compressed, and stand at their places. -/
theorem fillColumns_done {p : Location} {cols : List (String × Column)} {s t : Store}
    (hrun : fillColumns setting p cols s = .ok () t) :
    (∀ e ∈ cols, ∃ z, Compression.choose setting e.2.size = .ok z) ∧
      ((cols.map Prod.fst).Nodup →
        ∀ e ∈ cols, ∃ z, t.get? (p ++ [e.1]) = some { column := some (e.2, z) }) ∧
      ∀ q, (∀ e ∈ cols, q ≠ p ++ [e.1]) → t.get? q = s.get? q := by
  induction cols generalizing s with
  | nil =>
    cases hrun
    exact ⟨List.forall_mem_nil _, fun _ ↦ List.forall_mem_nil _, fun _ _ ↦ rfl⟩
  | cons e cols ih =>
    rw [fillColumns] at hrun
    obtain ⟨_, u, hcolumn, hrun⟩ := EStateM.bind_eq_ok_iff.mp hrun
    obtain ⟨hcompress, hcols, hframe⟩ := ih hrun
    rw [run_column] at hcolumn
    split at hcolumn
    · rename_i z hz
      cases hcolumn
      simp only [List.map_cons, List.nodup_cons, List.forall_mem_cons]
      refine ⟨⟨⟨z, hz⟩, hcompress⟩, fun h ↦ ⟨⟨z, ?_⟩, hcols h.2⟩, fun q hq ↦ ?_⟩
      · have hlater : ∀ d ∈ cols, p ++ [e.1] ≠ p ++ [d.1] := by
          intro d hd hname
          have hname : e.1 = d.1 := by simpa using hname
          exact h.1 (hname ▸ List.mem_map_of_mem hd)
        rw [hframe _ hlater, Store.get?_set, if_pos rfl]
      · rw [hframe q hq.2, Store.get?_set, if_neg hq.1]
    · exact nomatch hcolumn

/-- Columns that were not all stored hold one that cannot be compressed. -/
theorem fillColumns_failed {p : Location} {cols : List (String × Column)} {s t : Store} {e : Fault}
    (hrun : fillColumns setting p cols s = .error e t) :
    (∃ c ∈ cols, Compression.choose setting c.2.size = .error e) ∧
      ∀ q, (∀ c ∈ cols, q ≠ p ++ [c.1]) → t.get? q = s.get? q := by
  induction cols generalizing s with
  | nil => exact nomatch hrun
  | cons c cols ih =>
    rw [fillColumns] at hrun
    rw [List.exists_mem_cons_iff]
    rcases EStateM.bind_eq_error_iff.mp hrun with hcolumn | ⟨_, u, hcolumn, hrun⟩
    · rw [run_column] at hcolumn
      split at hcolumn
      · exact nomatch hcolumn
      · rename_i f hf
        cases hcolumn
        exact ⟨Or.inl hf, fun _ _ ↦ rfl⟩
    · obtain ⟨hcols, hframe⟩ := ih hrun
      refine ⟨Or.inr hcols, fun q hq ↦ ?_⟩
      rw [List.forall_mem_cons] at hq
      rw [run_column] at hcolumn
      split at hcolumn
      · cases hcolumn
        rw [hframe q hq.2, Store.get?_set, if_neg hq.1]
      · exact nomatch hcolumn

/-- A number of rows can be attached if it fits into a word of eight bytes without sign. -/
theorem run_annotate_rows {s : Store} {p : Location} {n : Node} (hn : s.get? p = some n)
    (rows : Nat) : Fill.annotate p rowsName (.int rows) s =
      if rows < 2 ^ 64 then
        .ok () (s.set p { n with attributes := n.attributes.insert rowsName (.int rows) })
      else .error .notStorable s := by
  have hstorable : (Binary.fits 8 rows || Binary.fitsUnsigned 8 rows) = true ↔ rows < 2 ^ 64 := by
    have hw : Binary.wordCount 8 = 2 ^ 64 := rfl
    simp only [Binary.fits, Binary.fitsUnsigned, hw, Bool.or_eq_true, Bool.and_eq_true,
      decide_eq_true_eq]
    omega
  have hcheck : (Attribute.int rows).check =
      if rows < 2 ^ 64 then .ok () else .error .notStorable := by
    simp only [Attribute.check, Attribute.raw, Attribute.checkEntry, hstorable]
  have hannotate : n.annotate rowsName (.int rows) = if rows < 2 ^ 64 then
      .ok { n with attributes := n.attributes.insert rowsName (.int rows) }
      else .error .notStorable := by
    have hname : Text.untilNull rowsName = rowsName := by decide
    have hne : rowsName ≠ "" := by decide
    rw [Node.annotate, hcheck]
    split
    · simp only [hname, Except.ok_bind, if_neg hne]
      rfl
    · rfl
  have hget : s.get p = .ok n := by rw [Store.get, hn]
  rw [Fill.annotate, EStateM.bind_of_ok (rfl : (get : Fill Store) s = .ok s s), hget,
    EStateM.bind_of_ok (rfl : Fill.ofExcept (.ok n) s = .ok n s), hannotate]
  split <;> rfl

theorem fillTable_of_error {t : Table α} {xs : List α} {e : Fault} (h : t.columns xs = .error e)
    (p : Location) (s : Store) : fillTable setting p t xs s = .error e s := by
  rw [fillTable, h]
  rfl

/-- Values that can be spread over columns are filled in with the number of rows, if all columns can
be compressed and there are not too many rows; otherwise there is a group without that number. -/
theorem fillTable_cases (setting : Option String) {t : Table α} {xs : List α}
    {cols : List (String × Column)} (hcols : t.columns xs = .ok cols) (p : Location) (s : Store) :
    ∃ u : Store, (∀ q, ¬Within [p] q → u.get? q = s.get? q) ∧
      ((fillTable setting p t xs s = .ok () u ∧
          (∀ c ∈ cols, ∃ z, Compression.choose setting c.2.size = .ok z) ∧ xs.length < 2 ^ 64 ∧
          u.get? p = some { attributes := Keyed.insert {} rowsName (.int xs.length) } ∧
          ((cols.map Prod.fst).Nodup →
            ∀ c ∈ cols, ∃ z, u.get? (p ++ [c.1]) = some { column := some (c.2, z) })) ∨
        ∃ e, fillTable setting p t xs s = .error e u ∧ u.get? p = some {} ∧
          ((∃ c ∈ cols, Compression.choose setting c.2.size = .error e) ∨ 2 ^ 64 ≤ xs.length)) := by
  have hgroup : (s.set p {}).get? p = some {} := by rw [Store.get?_set, if_pos rfl]
  have hself : ∀ c ∈ cols, p ≠ p ++ [c.1] := fun c _ ↦ by simp
  have hout : ∀ q, ¬Within [p] q → q ≠ p ∧ ∀ c ∈ cols, q ≠ p ++ [c.1] := by
    intro q hq
    rw [within_singleton] at hq
    exact ⟨fun h ↦ hq (h ▸ beneath_self p), fun c _ h ↦ hq (h ▸ beneath_append p [c.1])⟩
  rw [fillTable_of_columns hcols]
  cases hrun : fillColumns setting p cols (s.set p {}) with
  | error e u =>
    obtain ⟨hcompress, hframe⟩ := fillColumns_failed hrun
    refine ⟨u, fun q hq ↦ ?_, Or.inr ⟨e, EStateM.bind_of_error hrun, ?_, Or.inl hcompress⟩⟩
    · rw [hframe q (hout q hq).2, Store.get?_set, if_neg (hout q hq).1]
    · rw [hframe p hself, hgroup]
  | ok _ u =>
    obtain ⟨hcompress, hstored, hframe⟩ := fillColumns_done hrun
    have hgroup := (hframe p hself).trans hgroup
    rw [EStateM.bind_of_ok hrun, run_annotate_rows hgroup]
    split
    · rename_i hfew
      refine ⟨_, fun q hq ↦ ?_, Or.inl ⟨rfl, hcompress, hfew, ?_, fun h c hc ↦ ?_⟩⟩
      · rw [Store.get?_set, if_neg (hout q hq).1, hframe q (hout q hq).2, Store.get?_set,
          if_neg (hout q hq).1]
      · rw [Store.get?_set, if_pos rfl]
      · obtain ⟨z, hz⟩ := hstored h c hc
        exact ⟨z, by rw [Store.get?_set, if_neg (hself c hc).symm, hz]⟩
    · rename_i hmany
      refine ⟨u, fun q hq ↦ ?_, Or.inr ⟨_, rfl, hgroup, Or.inr (Nat.not_lt.mp hmany)⟩⟩
      rw [hframe q (hout q hq).2, Store.get?_set, if_neg (hout q hq).1]

/-- A table that was filled in has all its columns and the number of its rows. -/
theorem secures_fillTable (p : Location) {t : Table α} {names : List String} (ht : t.Named names)
    (hnames : names.Nodup) (xs : List α) :
    (fillTable setting p t xs).Secures [p] fun s ↦ s.Holds p t xs := by
  cases hcols : t.columns xs with
  | error f =>
    constructor
    · intro s u hrun
      rw [fillTable_of_error hcols] at hrun
      exact nomatch hrun
    · intro s u e hrun q hq
      rw [fillTable_of_error hcols] at hrun
      cases hrun
      rfl
  | ok cols =>
    constructor
    · intro s u hrun
      obtain ⟨u', hframe, ⟨hrun', -, -, hgroup, hstored⟩ | ⟨e, hrun', -⟩⟩ :=
        fillTable_cases setting hcols p s
      · cases hrun.symm.trans hrun'
        refine ⟨hframe, fun v hv ↦
          ⟨⟨{ attributes := Keyed.insert {} rowsName (.int xs.length) }, ?_, rfl, ?_⟩,
            cols, hcols, fun c hc ↦ ?_⟩⟩
        · exact (hv p (within_singleton.mpr (beneath_self p))).trans hgroup
        · rw [Keyed.get?_insert, if_pos rfl]
        · obtain ⟨z, hz⟩ := hstored (by rwa [ht xs cols hcols]) c hc
          exact Store.column_of_get?
            ((hv _ (within_singleton.mpr (beneath_append p _))).trans hz)
      · exact nomatch hrun.symm.trans hrun'
    · intro s u e hrun
      obtain ⟨u', hframe, ⟨hrun', -⟩ | ⟨e', hrun', -⟩⟩ := fillTable_cases setting hcols p s
      · exact nomatch hrun.symm.trans hrun'
      · cases hrun.symm.trans hrun'
        exact hframe

/-- Filling a table establishes its columns and the number of its rows. -/
theorem establishes_fillTable (hs : Compression.Accepted setting) (p : Location) {t : Table α}
    {names : List String} (ht : t.Named names) (hnames : names.Nodup) {xs : List α}
    (hxs : ∃ cols, t.columns xs = .ok cols) (hrows : CountFits xs) :
    (fillTable setting p t xs).Establishes [p] fun s ↦ s.Holds p t xs := by
  obtain ⟨cols, hcols⟩ := hxs
  rw [Fill.establishes_iff]
  refine ⟨secures_fillTable p ht hnames xs, fun s ↦ ?_⟩
  obtain ⟨u, -, ⟨hrun, -⟩ | ⟨e, -, -, ⟨c, -, hc⟩ | hmany⟩⟩ := fillTable_cases setting hcols p s
  · exact ⟨u, hrun⟩
  · obtain ⟨z, hz⟩ := hs.choose_ok c.2.size
    exact nomatch hz.symm.trans hc
  · have hcount := countFits_iff.mp hrows
    omega

structure Numbered (s : Store) (ids : List Int) : Prop where
  group : ∃ n, s.get? numericalAt = some n ∧ n.column = none
  numbers : ∃ n, s.get? numbersAt = some n ∧ ∃ z, n.column = some (.ints ids, z)

def cellsAt : Location := numericalAt ++ ["cells"]

def couplingsAt : Location := numericalAt ++ ["connections"]

def influxAt : Location := ["aquancon"]

def numbered (s : Store) (ids : List Int) : Store :=
  (s.set numericalAt {}).set numbersAt { column := some (.ints ids, none) }

theorem fillNumerical_of_ofInts {r : Registry}
    (h : Column.ofInts (r.toList.map (·.id)) = .ok (.ints (r.toList.map (·.id)))) (s : Store) :
    fillNumerical setting r s = (fillTable setting cellsAt .storageCell r.cells >>= fun _ ↦
      fillTable setting couplingsAt .coupling r.couplings) (numbered s (r.toList.map (·.id))) := by
  rw [fillNumerical, EStateM.bind_of_ok (rfl : Fill.group numericalAt s = .ok () _), h,
    EStateM.bind_of_ok (rfl : Fill.ofExcept (.ok _) _ = .ok _ _),
    EStateM.bind_of_ok (rfl : Fill.column none numbersAt _ _ = .ok () _)]
  rfl

theorem numbered_frame {s : Store} {ids : List Int} {q : Location} (h : ¬Within [numericalAt] q) :
    (numbered s ids).get? q = s.get? q := by
  rw [within_singleton] at h
  have hnumerical : q ≠ numericalAt := fun hq ↦ h (hq ▸ beneath_self numericalAt)
  have hnumbers : q ≠ numbersAt := fun hq ↦ h (hq ▸ beneath_append numericalAt ["aquifer_ids"])
  rw [numbered, Store.get?_set, if_neg hnumbers, Store.get?_set, if_neg hnumerical]

/-- The parts of the numerical aquifers are filled in beneath their group. -/
theorem secures_fillNumerical (r : Registry) :
    (fillNumerical setting r).Secures [numericalAt] fun s ↦
      Numbered s (r.toList.map (·.id)) ∧ s.Holds cellsAt .storageCell r.cells ∧
        s.Holds couplingsAt .coupling r.couplings := by
  have hparts : (fillTable setting cellsAt .storageCell r.cells >>= fun _ ↦
      fillTable setting couplingsAt .coupling r.couplings).Secures ([cellsAt] ++ [couplingsAt])
      fun s ↦ s.Holds cellsAt .storageCell r.cells ∧ s.Holds couplingsAt .coupling r.couplings :=
    (secures_fillTable cellsAt Table.named_storageCell (by decide) r.cells).bind
      (secures_fillTable couplingsAt Table.named_coupling (by decide) r.couplings) (by decide)
  have hbelow : ∀ q, Within ([cellsAt] ++ [couplingsAt]) q → Within [numericalAt] q := by
    intro q h
    obtain ⟨p, hp, hq⟩ := h
    have hnumerical : ∀ p ∈ [cellsAt] ++ [couplingsAt], beneath numericalAt p = true := by decide
    exact within_singleton.mpr (beneath_trans (hnumerical p hp) hq)
  cases hids : Column.ofInts (r.toList.map (·.id)) with
  | error f =>
    have hrun : ∀ s, fillNumerical setting r s = .error f (s.set numericalAt {}) := by
      intro s
      rw [fillNumerical, EStateM.bind_of_ok (rfl : Fill.group numericalAt s = .ok () _), hids]
      rfl
    constructor
    · intro s u h
      exact nomatch (hrun s).symm.trans h
    · intro s u e h q hq
      cases (hrun s).symm.trans h
      have hnumerical : q ≠ numericalAt := by
        rintro rfl
        exact hq (within_singleton.mpr (beneath_self _))
      rw [Store.get?_set, if_neg hnumerical]
  | ok c =>
    obtain ⟨-, rfl⟩ := Column.ofInts_eq_ok_iff.mp hids
    constructor
    · intro s u h
      rw [fillNumerical_of_ofInts hids] at h
      obtain ⟨hframe, hP⟩ := hparts.done h
      refine ⟨fun q hq ↦ ?_, fun v hv ↦ ⟨⟨⟨{}, ?_, rfl⟩,
        ⟨{ column := some (.ints (r.toList.map (·.id)), none) }, ?_, none, rfl⟩⟩,
        hP v fun q hq ↦ hv q (hbelow q hq)⟩⟩
      · rw [hframe q fun hin ↦ hq (hbelow q hin), numbered_frame hq]
      · rw [hv _ (by decide), hframe _ (by decide), numbered, Store.get?_set,
          if_neg (by decide), Store.get?_set, if_pos rfl]
      · rw [hv _ (by decide), hframe _ (by decide), numbered, Store.get?_set, if_pos rfl]
    · intro s u e h q hq
      rw [fillNumerical_of_ofInts hids] at h
      rw [hparts.failed h q fun hin ↦ hq (hbelow q hin), numbered_frame hq]

theorem establishes_fillNumerical {r : Registry} (hid : ∀ a ∈ r.toList, IntegerFits a.id)
    (hcells : (fillTable setting cellsAt .storageCell r.cells).Establishes [cellsAt]
      fun s ↦ s.Holds cellsAt .storageCell r.cells)
    (hcouplings : (fillTable setting couplingsAt .coupling r.couplings).Establishes [couplingsAt]
      fun s ↦ s.Holds couplingsAt .coupling r.couplings) :
    (fillNumerical setting r).Establishes [numericalAt] fun s ↦
      Numbered s (r.toList.map (·.id)) ∧ s.Holds cellsAt .storageCell r.cells ∧
        s.Holds couplingsAt .coupling r.couplings := by
  have hids : Column.ofInts (r.toList.map (·.id)) = .ok (.ints (r.toList.map (·.id))) :=
    Column.ofInts_eq_ok_iff.mpr ⟨List.forall_mem_map.mpr hid, rfl⟩
  rw [Fill.establishes_iff]
  refine ⟨secures_fillNumerical r, fun s ↦ ?_⟩
  obtain ⟨t, hrun, -⟩ := hcells.bind hcouplings (by decide) (numbered s (r.toList.map (·.id)))
  exact ⟨t, (fillNumerical_of_ofInts hids s).trans hrun⟩

structure Filled (s : Store) (c : Configuration) : Prop where
  fetkovich : s.Holds ["fetkovich"] .fetkovich c.fetkovich.toList
  carterTracy : s.Holds ["carter_tracy"] .carterTracy c.carterTracy.toList
  constantFlux : s.Holds ["constant_flux"] .constantFlux c.constantFlux.toList
  numbers : Numbered s (c.numerical.toList.map (·.id))
  cells : s.Holds cellsAt .storageCell c.numerical.cells
  couplings : s.Holds couplingsAt .coupling c.numerical.couplings
  influx : s.Holds ["aquancon"] .influxCell c.influx.toList

theorem run_describe : ∃ s, describe description ∅ = .ok () s ∧
    versionOf s = .ok formatVersion ∧ s.get? influxAt = none :=
  ⟨_, rfl, rfl, rfl⟩

theorem versionOf_congr {s t : Store} (h : t.get? metadataAt = s.get? metadataAt) :
    versionOf t = versionOf s := by
  rw [versionOf, versionOf, Store.attributes, Store.attributes, h]

/-- A configuration whose integers fit can be filled into a store. -/
theorem run_fill {c : Configuration} (hc : c.OwnKeys) (hi : c.IntegersFit) (hn : c.RowsFit)
    {setting : Option String} (hs : Compression.Accepted setting) :
    ∃ s, fill setting c ∅ = .ok () s ∧ versionOf s = .ok formatVersion ∧ Filled s c := by
  have hfetkovich := establishes_fillTable hs ["fetkovich"] Table.named_fetkovich (by decide)
    (Table.spreads_fetkovich _ hi.fetkovich) hn.fetkovich
  have hcarterTracy := establishes_fillTable hs ["carter_tracy"] Table.named_carterTracy
    (by decide) (Table.exists_columns_carterTracy hi.carterTracy hn.times hn.pressures)
    hn.carterTracy
  have hconstantFlux := establishes_fillTable hs ["constant_flux"] Table.named_constantFlux
    (by decide) (Table.spreads_constantFlux _ hi.constantFlux) hn.constantFlux
  have hcells := establishes_fillTable hs cellsAt Table.named_storageCell (by decide)
    (Table.spreads_storageCell c.numerical.cells fun x hx ↦ by
      obtain ⟨a, ha, hx⟩ := List.mem_flatMap.mp hx
      exact (hi.numerical a ha).2.1 x hx) hn.cells
  have hcouplings := establishes_fillTable hs couplingsAt Table.named_coupling (by decide)
    (Table.spreads_coupling c.numerical.couplings fun x hx ↦ by
      obtain ⟨a, ha, hx⟩ := List.mem_flatMap.mp hx
      exact (hi.numerical a ha).2.2 x hx) hn.couplings
  have hnumerical := establishes_fillNumerical (fun a ha ↦ (hi.numerical a ha).1) hcells hcouplings
  have hinflux := establishes_fillTable hs ["aquancon"] Table.named_influxCell (by decide)
    (Table.spreads_influxCell c.influx.toList fun x hx ↦ by
      obtain ⟨xs, hxs, hx⟩ := List.mem_flatten.mp hx
      obtain ⟨e, he, rfl⟩ := List.mem_map.mp hxs
      have hfit := hi.influx e he
      exact ⟨(hc.influx e he x hx).symm ▸ hfit.1, hfit.2 x hx⟩) hn.influx
  obtain ⟨s, hdescribe, hversion, -⟩ := run_describe
  obtain ⟨t, hrun, hframe, hfilled⟩ := hfetkovich.bind (hcarterTracy.bind (hconstantFlux.bind
    (hnumerical.bind hinflux (by decide)) (by decide)) (by decide)) (by decide) s
  obtain ⟨hf, hct, hq, ⟨hnumbers, hcs, hds⟩, hx⟩ := hfilled t fun _ _ ↦ rfl
  refine ⟨t, (EStateM.bind_of_ok hdescribe).trans hrun, ?_, ⟨hf, hct, hq, hnumbers, hcs, hds, hx⟩⟩
  rw [versionOf_congr (hframe metadataAt (by decide)), hversion]

end Columns

end Aquifer
