import Aquifer.Proofs.Columns.RoundTrip

namespace Aquifer

namespace Compression

theorem name_of_ofName {name : String} {c : Compression} (h : ofName name = .ok c) :
    c.name = name := by
  rw [ofName] at h
  split at h
  · rename_i d hd
    cases h
    have hname := List.find?_some hd
    exact beq_iff_eq.mp hname
  · exact nomatch h

theorem exists_choose_iff {setting : Option String} {size : Nat} :
    (∃ z, choose setting size = .ok z) ↔ size ≤ threshold ∨ Accepted setting := by
  constructor
  · intro h
    obtain ⟨z, hz⟩ := h
    cases setting with
    | none => exact Or.inr (Or.inl rfl)
    | some name =>
      by_cases hname : name = ""
      · exact Or.inr (Or.inr (Or.inl (congrArg some hname)))
      · by_cases hsize : threshold < size
        · rw [choose, if_pos ⟨hname, hsize⟩] at hz
          obtain ⟨c, hc, -⟩ := Except.map_eq_ok_iff.mp hz
          exact Or.inr (Or.inr (Or.inr ⟨c, congrArg some (name_of_ofName hc).symm⟩))
        · exact Or.inl (Nat.le_of_not_lt hsize)
  · rintro (h | h)
    · cases setting with
      | none => exact ⟨none, rfl⟩
      | some name => exact ⟨none, if_neg fun hlong ↦ Nat.not_lt.mpr h hlong.2⟩
    · exact h.choose_ok size

end Compression

namespace Table

variable {α β : Type} {a : Table α} {b : Table β}

def Sized (t : Table α) : Prop :=
  ∀ xs cols, t.columns xs = .ok cols → ∀ c ∈ cols, c.2.size = xs.length

theorem sized_int (name : String) : (int name).Sized := by
  intro xs cols h
  obtain ⟨-, rfl⟩ := columns_int_eq_ok_iff.mp h
  exact List.forall_mem_singleton.mpr rfl

theorem sized_real (name : String) : (real name).Sized := by
  intro xs cols h
  cases Except.ok.inj h
  exact List.forall_mem_singleton.mpr rfl

theorem Sized.pair (ha : a.Sized) (hb : b.Sized) : (a.pair b).Sized := by
  intro xs cols h c hc
  obtain ⟨cs, hcs, ds, hds, rfl⟩ := columns_pair_eq_ok_iff.mp h
  rcases List.mem_append.mp hc with hc | hc
  · rw [ha _ cs hcs c hc, List.length_map]
  · rw [hb _ ds hds c hc, List.length_map]

theorem Sized.map {form : α → β} {unform : β → α} (h : a.Sized) : (a.map form unform).Sized := by
  intro ys cols hcols c hc
  rw [h (ys.map unform) cols hcols c hc, List.length_map]

theorem Sized.refine {form : α → Except Fault β} {unform : β → α} (h : a.Sized) :
    (a.refine form unform).Sized := by
  intro ys cols hcols c hc
  rw [h (ys.map unform) cols hcols c hc, List.length_map]

theorem sized_influxCell : influxCell.Sized :=
  Sized.map (.pair (sized_int _) <| .pair (sized_int _) <|
    .pair (sized_real _) (Sized.refine (sized_int _)))

end Table

/-- There are more influx cells than can be stored under a setting: their columns are to be
compressed in an unknown way, or their number is no integer of eight bytes. -/
def Influx.Overlong (setting : Option String) (x : Influx) : Prop :=
  (Compression.threshold < x.size ∧ ¬Compression.Accepted setting) ∨ 2 ^ 64 ≤ x.size

namespace Columns

open Location

variable {setting : Option String} {c : Configuration} {s t : Store}

def fillSections (setting : Option String) (c : Configuration) : Fill Unit := do
  fillTable setting ["fetkovich"] .fetkovich c.fetkovich.toList
  fillTable setting ["carter_tracy"] .carterTracy c.carterTracy.toList
  fillTable setting ["constant_flux"] .constantFlux c.constantFlux.toList
  fillNumerical setting c.numerical

structure FilledSections (s : Store) (c : Configuration) : Prop where
  fetkovich : s.Holds ["fetkovich"] .fetkovich c.fetkovich.toList
  carterTracy : s.Holds ["carter_tracy"] .carterTracy c.carterTracy.toList
  constantFlux : s.Holds ["constant_flux"] .constantFlux c.constantFlux.toList
  numbers : Numbered s (c.numerical.toList.map (·.id))
  cells : s.Holds cellsAt .storageCell c.numerical.cells
  couplings : s.Holds couplingsAt .coupling c.numerical.couplings

theorem secures_fillSections (setting : Option String) (c : Configuration) :
    (fillSections setting c).Secures
      [["fetkovich"], ["carter_tracy"], ["constant_flux"], numericalAt]
      fun s ↦ FilledSections s c := by
  refine ((secures_fillTable ["fetkovich"] Table.named_fetkovich (by decide) _).bind
    ((secures_fillTable ["carter_tracy"] Table.named_carterTracy (by decide) _).bind
      ((secures_fillTable ["constant_flux"] Table.named_constantFlux (by decide) _).bind
        (secures_fillNumerical c.numerical) (by decide)) (by decide)) (by decide)).of_imp
    fun s h ↦ ?_
  obtain ⟨hf, hct, hq, hnumbers, hcs, hds⟩ := h
  exact ⟨hf, hct, hq, hnumbers, hcs, hds⟩

/-- Whatever the influx cells are, either the sections before theirs are filled in, to stay as they
are when the last one is, or filling fails before there is a last one. -/
theorem fill_cases (setting : Option String) (c : Configuration) :
    ∃ s : Store, s.get? influxAt = none ∧
      (((∀ t : Store, (∀ q, ¬Within [influxAt] q → t.get? q = s.get? q) →
          versionOf t = .ok formatVersion ∧ FilledSections t c) ∧
        ∀ x : Influx, fill setting { c with influx := x } ∅ =
          fillTable setting influxAt .influxCell x.toList s) ∨
      ∃ e, ∀ x : Influx, fill setting { c with influx := x } ∅ = .error e s) := by
  -- the description does not depend on the configuration, so its store is computed
  obtain ⟨s, hdescribe, hversion, hinflux⟩ := run_describe
  have hfill : ∀ x : Influx, fill setting { c with influx := x } ∅ =
      (fillSections setting c >>= fun _ ↦
        fillTable setting influxAt .influxCell x.toList) s := by
    intro x
    rw [fill, EStateM.bind_of_ok hdescribe]
    simp only [fillSections, bind_assoc]
    rfl
  have hsections := secures_fillSections setting c
  cases hrun : fillSections setting c s with
  | ok _ t =>
    obtain ⟨hframe, hP⟩ := hsections.done hrun
    refine ⟨t, (hframe influxAt (by decide)).trans hinflux,
      Or.inl ⟨fun u hu ↦ ⟨?_, hP u fun q hq ↦ hu q ?_⟩, fun x ↦ ?_⟩⟩
    · rw [versionOf_congr (hu metadataAt (by decide)),
        versionOf_congr (hframe metadataAt (by decide)), hversion]
    · exact not_within_of_apart (by decide) hq
    · rw [hfill, EStateM.bind_of_ok hrun]
  | error e t =>
    refine ⟨t, (hsections.failed hrun influxAt (by decide)).trans hinflux, Or.inr ⟨e, fun x ↦ ?_⟩⟩
    rw [hfill, EStateM.bind_of_error hrun]

def readInflux (s : Store) : Except Fault Influx := do gatherInflux (← sectionAt s influxAt)

theorem gather_of_readInflux (h : versionOf s = .ok formatVersion ∧ FilledSections s c)
    (hc : c.OwnKeys) (hp : ∀ a ∈ c.numerical.toList, a.OwnParts) {x : Influx}
    (hx : readInflux s = .ok x) : gather s = .ok { c with influx := x } := by
  obtain ⟨hversion, hfilled⟩ := h
  obtain ⟨fs, hfs, hfetkovich⟩ := sectionAt_of_holds hfilled.fetkovich
  obtain ⟨ts, hts, hcarterTracy⟩ := sectionAt_of_holds hfilled.carterTracy
  obtain ⟨qs, hqs, hconstantFlux⟩ := sectionAt_of_holds hfilled.constantFlux
  obtain ⟨xs, hxs, hinflux⟩ := Except.bind_eq_ok_iff.mp hx
  rw [influxAt] at hxs
  have hsupported : ¬(formatVersion < 1 ∨ formatVersion < formatVersion) := by decide
  simp only [gather, hversion, Except.ok_bind, if_neg hsupported, hfs, hts, hqs, hxs, hinflux,
    gatherCollection_of_holds hfetkovich Table.gathers_fetkovich hc.fetkovich,
    gatherCarterTracy_of_holds hcarterTracy hc.carterTracy,
    gatherCollection_of_holds hconstantFlux Table.gathers_constantFlux hc.constantFlux,
    gatherNumerical_of_holds hfilled.numbers hfilled.cells hfilled.couplings hc.numerical hp]
  rfl

theorem readInflux_of_holds {x : Influx} (h : s.Holds influxAt .influxCell x.toList)
    (hx : x.OwnKeys) (hne : ∀ e ∈ x.cells.entries, e.2 ≠ []) : readInflux s = .ok x := by
  obtain ⟨sec, hsec, hholds⟩ := sectionAt_of_holds h
  rw [readInflux, hsec, Except.ok_bind, gatherInflux_of_holds hholds hx hne]

/-- A section without a number of rows is read as one that has none. -/
theorem readInflux_of_bare (h : s.get? influxAt = some {}) : readInflux s = .ok ∅ := by
  rw [readInflux, sectionAt, require, h]
  rfl

theorem get?_influxAt_of_gather {d : Configuration} (h : gather s = .ok d) :
    s.get? influxAt ≠ none := by
  intro hnone
  have hsection : sectionAt s influxAt =
      .error (.malformed (.missingSection (Location.text influxAt)) none) := by
    rw [sectionAt, require, hnone]
    rfl
  rw [gather] at h
  obtain ⟨v, -, h⟩ := Except.bind_eq_ok_iff.mp h
  rw [influxAt] at hsection
  split at h
  · cases h
  · simp only [hsection, Except.bind_eq_ok_iff, reduceCtorEq, false_and, and_false,
      exists_false] at h

/-- Influx cells that can be spread over columns are filled in unless there are too many of them;
then there is a section without the number of its rows. -/
theorem fillInflux_cases (setting : Option String) {x : Influx} {cols : List (String × Column)}
    (hcols : Table.influxCell.columns x.toList = .ok cols) (s : Store) :
    ∃ t : Store, (∀ q, ¬Within [influxAt] q → t.get? q = s.get? q) ∧
      ((¬x.Overlong setting ∧ fillTable setting influxAt .influxCell x.toList s = .ok () t ∧
          t.Holds influxAt .influxCell x.toList) ∨
        ∃ e, x.Overlong setting ∧ fillTable setting influxAt .influxCell x.toList s = .error e t ∧
          t.get? influxAt = some {}) := by
  have hchoose : ∀ c ∈ cols, (∃ z, Compression.choose setting c.2.size = .ok z) ↔
      x.size ≤ Compression.threshold ∨ Compression.Accepted setting := by
    intro c hc
    rw [Table.sized_influxCell _ cols hcols c hc]
    exact Compression.exists_choose_iff
  obtain ⟨t, hframe, ⟨hrun, hall, hfew, -⟩ | ⟨e, hrun, hbare, hfail⟩⟩ :=
    fillTable_cases setting hcols influxAt s
  · refine ⟨t, hframe, Or.inl ⟨?_, hrun, ?_⟩⟩
    -- all columns are equally long, so the first one tells
    · rintro (⟨hlong, hunknown⟩ | hmany)
      · obtain ⟨c, cs, rfl⟩ : ∃ c cs, cols = c :: cs := by
          refine List.exists_cons_of_ne_nil fun hnil ↦ ?_
          exact nomatch (Table.named_influxCell _ cols hcols).symm.trans (congrArg _ hnil)
        have hc := List.mem_cons_self (a := c) (l := cs)
        rcases (hchoose c hc).mp (hall c hc) with hshort | haccepted
        · exact Nat.not_lt.mpr hshort hlong
        · exact hunknown haccepted
      · exact Nat.not_lt.mpr hmany hfew
    · exact ((secures_fillTable influxAt Table.named_influxCell (by decide) _).done hrun).2 t
        fun _ _ ↦ rfl
  · refine ⟨t, hframe, Or.inr ⟨e, ?_, hrun, hbare⟩⟩
    rcases hfail with ⟨c, hc, he⟩ | hmany
    · have hnot : ¬∃ z, Compression.choose setting c.2.size = .ok z := by
        intro ⟨z, hz⟩
        exact nomatch hz.symm.trans he
      rw [hchoose c hc, not_or] at hnot
      exact Or.inl ⟨Nat.lt_of_not_le hnot.1, hnot.2⟩
    · exact Or.inr hmany

end Columns

namespace Configuration

open Columns

variable {setting : Option String} {c : Configuration}

theorem store_of_fill {s : Store} (h : fill setting c ∅ = .ok () s) :
    c.store setting = (.ok (), s) := by
  rw [store, h]

theorem store_of_fill_error {e : Fault} {s : Store} (h : fill setting c ∅ = .error e s) :
    c.store setting = (.error e, s) := by
  rw [store, h]

theorem configuration_ne_ok {s : Store} (h : s.get? influxAt = none) (d : Configuration) :
    s.configuration ≠ .ok d :=
  fun hd ↦ get?_influxAt_of_gather hd h

/-- A configuration that was stored is read again. From what remains of one that could not be stored
nothing is read, unless there were too many influx cells; then all but these are read. -/
theorem store_cases (hc : c.OwnKeys) (hp : c.OwnParts) (setting : Option String) :
    ∃ s, (c.store setting = (.ok (), s) ∧ s.configuration = .ok c) ∨
      ∃ e, c.store setting = (.error e, s) ∧ ((∀ d, s.configuration ≠ .ok d) ∨
        (c.influx.Overlong setting ∧ s.configuration = .ok { c with influx := ∅ })) := by
  obtain ⟨s, hmissing, ⟨hsections, hfill⟩ | ⟨e, hfill⟩⟩ := fill_cases setting c
  · cases hcols : Table.influxCell.columns c.influx.toList with
    | error e =>
      refine ⟨s, Or.inr ⟨e, store_of_fill_error ?_, Or.inl (configuration_ne_ok hmissing)⟩⟩
      exact (hfill c.influx).trans (fillTable_of_error hcols influxAt s)
    | ok cols =>
      obtain ⟨t, hframe, ⟨-, hrun, hholds⟩ | ⟨e, hlong, hrun, hbare⟩⟩ :=
        fillInflux_cases setting hcols s
      · refine ⟨t, Or.inl ⟨store_of_fill ((hfill c.influx).trans hrun), ?_⟩⟩
        exact gather_of_readInflux (hsections t hframe) hc hp.numerical
          (readInflux_of_holds hholds hc.influx hp.influx)
      · refine ⟨t, Or.inr ⟨e, store_of_fill_error ((hfill c.influx).trans hrun),
          Or.inr ⟨hlong, ?_⟩⟩⟩
        exact gather_of_readInflux (hsections t hframe) hc hp.numerical (readInflux_of_bare hbare)
  · exact ⟨s, Or.inr ⟨e, store_of_fill_error (hfill c.influx),
      Or.inl (configuration_ne_ok hmissing)⟩⟩

/-- Too many influx cells are lost, if nothing else keeps the configuration from being stored. -/
theorem store_of_overlong (hc : c.OwnKeys) (hp : c.OwnParts) {cols : List (String × Column)}
    (hcols : Table.influxCell.columns c.influx.toList = .ok cols)
    (hlong : c.influx.Overlong setting) {s : Store}
    (hstore : { c with influx := ∅ }.store setting = (.ok (), s)) :
    ∃ e t, c.store setting = (.error e, t) ∧ t.configuration = .ok { c with influx := ∅ } := by
  obtain ⟨s, -, ⟨hsections, hfill⟩ | ⟨e, hfill⟩⟩ := fill_cases setting c
  · obtain ⟨t, hframe, ⟨hshort, -⟩ | ⟨e, -, hrun, hbare⟩⟩ :=
      fillInflux_cases setting hcols s
    · exact absurd hlong hshort
    · refine ⟨e, t, store_of_fill_error ((hfill c.influx).trans hrun), ?_⟩
      exact gather_of_readInflux (hsections t hframe) hc hp.numerical (readInflux_of_bare hbare)
  · exact nomatch hstore.symm.trans (store_of_fill_error (hfill ∅))

end Configuration

end Aquifer
