import Aquifer.Binary.Layout
import Aquifer.Proofs.Binary.Codec
import Aquifer.Proofs.Storable

namespace Aquifer

theorem Face.of_ofCode_error {n : Int} {e : Fault} (h : ofCode n = .error e) :
    e = .badFaceCode n ∧ ∀ f : Face, f.code ≠ n := by
  constructor
  · rw [ofCode] at h
    split at h
    · exact nomatch h
    · exact (Except.error.inj h).symm
  · rintro f rfl
    rw [ofCode_code] at h
    exact nomatch h

theorem SolutionKind.ofCode_code (k : SolutionKind) : ofCode k.code = .ok k := by
  cases k <;> rfl

theorem SolutionKind.of_ofCode_error {n : Int} {e : Fault} (h : ofCode n = .error e) :
    e = .badSolutionCode n ∧ ∀ k : SolutionKind, k.code ≠ n := by
  constructor
  · rw [ofCode] at h
    split at h
    · exact nomatch h
    · exact (Except.error.inj h).symm
  · rintro k rfl
    rw [ofCode_code] at h
    exact nomatch h

theorem SolutionKind.code_of_ofCode {n : Int} {k : SolutionKind} (h : ofCode n = .ok k) :
    k.code = n := by
  rw [ofCode] at h
  split at h
  · rename_i l hl
    cases h
    have hcode := List.find?_some hl
    exact beq_iff_eq.mp hcode
  · exact nomatch h

namespace Codec

theorem writes_optional_real (x : Option Double) : (optional real).Writes x :=
  Writes.optional fun y _ ↦ writes_real y

theorem restores_optional_real (x : Option Double) : (optional real).Restores x :=
  Restores.optional fun y _ ↦ restores_real y

theorem writes_fetkovich {a : Fetkovich} (h : a.IntegersFit) : fetkovich.Writes a := by
  obtain ⟨hid, hpvt⟩ := h
  exact Writes.map (.pair (writes_int hid) <| .pair (writes_real _) <| .pair (writes_real _) <|
    .pair (writes_real _) <| .pair (writes_real _) <| .pair (writes_int hpvt) <|
    .pair (writes_optional_real _) <| .pair (writes_real _) (writes_optional_real _))

theorem restores_fetkovich (a : Fetkovich) : fetkovich.Restores a :=
  Restores.map (.pair (restores_int _) <| .pair (restores_real _) <| .pair (restores_real _) <|
    .pair (restores_real _) <| .pair (restores_real _) <| .pair (restores_int _) <|
    .pair (restores_optional_real _) <| .pair (restores_real _) (restores_optional_real _)) rfl

theorem writes_carterTracy {a : CarterTracy} (h : a.IntegersFit)
    (ht : 8 * a.times.length < 2 ^ 31) (hp : 8 * a.pressures.length < 2 ^ 31) :
    carterTracy.Writes a := by
  obtain ⟨hid, hpvt, htable⟩ := h
  exact Writes.map (.pair (writes_int hid) <| .pair (writes_real _) <| .pair (writes_real _) <|
    .pair (writes_real _) <| .pair (writes_real _) <| .pair (writes_real _) <|
    .pair (writes_real _) <| .pair (writes_real _) <| .pair (writes_int hpvt) <|
    .pair (writes_int htable) <| .pair (writes_optional_real _) <|
    .pair (writes_reals ht) (writes_reals hp))

theorem restores_carterTracy (a : CarterTracy) : carterTracy.Restores a :=
  Restores.map (.pair (restores_int _) <| .pair (restores_real _) <| .pair (restores_real _) <|
    .pair (restores_real _) <| .pair (restores_real _) <| .pair (restores_real _) <|
    .pair (restores_real _) <| .pair (restores_real _) <| .pair (restores_int _) <|
    .pair (restores_int _) <| .pair (restores_optional_real _) <|
    .pair (restores_reals _) (restores_reals _)) rfl

theorem writes_constantFlux {a : ConstantFlux} (h : a.IntegersFit) : constantFlux.Writes a :=
  Writes.map (.pair (writes_int h) <| .pair (writes_real _) <| .pair (writes_real _) <|
    .pair (writes_optional_real _) (writes_optional_real _))

theorem restores_constantFlux (a : ConstantFlux) : constantFlux.Restores a :=
  Restores.map (.pair (restores_int _) <| .pair (restores_real _) <| .pair (restores_real _) <|
    .pair (restores_optional_real _) (restores_optional_real _)) rfl

theorem writes_cellNumbers {x : Coord × Int} (hc : x.1.IntegersFit) (hn : IntegerFits x.2) :
    cellNumbers.Writes x := by
  obtain ⟨hi, hj, hk⟩ := hc
  refine Writes.refine (writes_ints ?_ (by simp))
  simp only [List.forall_mem_cons]
  exact ⟨hi, hj, hk, hn, List.forall_mem_nil _⟩

theorem restores_cellNumbers (x : Coord × Int) : cellNumbers.Restores x :=
  Restores.refine (restores_ints _) fun _ ↦ rfl

theorem writes_storageCell {c : StorageCell} (h : c.IntegersFit) : storageCell.Writes c := by
  obtain ⟨hid, hplace, hindex, hpvt, hsat⟩ := h
  exact Writes.map (.pair (writes_int hid) <| .pair (writes_cellNumbers hplace hindex) <|
    .pair (writes_real _) <| .pair (writes_real _) <| .pair (writes_real _) <|
    .pair (writes_real _) <| .pair (writes_real _) <| .pair (writes_int hpvt) <|
    .pair (writes_int hsat) (writes_optional_real _))

theorem restores_storageCell (c : StorageCell) : storageCell.Restores c :=
  Restores.map (.pair (restores_int _) <| .pair (restores_cellNumbers _) <|
    .pair (restores_real _) <| .pair (restores_real _) <| .pair (restores_real _) <|
    .pair (restores_real _) <| .pair (restores_real _) <| .pair (restores_int _) <|
    .pair (restores_int _) (restores_optional_real _)) rfl

theorem writes_couplingNumbers {x : Coord × Int × Face × Int} (hc : x.1.IntegersFit)
    (hn : IntegerFits x.2.1) (ho : IntegerFits x.2.2.2) : couplingNumbers.Writes x := by
  obtain ⟨hi, hj, hk⟩ := hc
  refine Writes.refine (writes_ints ?_ (by simp))
  simp only [List.forall_mem_cons]
  exact ⟨hi, hj, hk, hn, Face.integerFits_code _, ho, List.forall_mem_nil _⟩

theorem restores_couplingNumbers (x : Coord × Int × Face × Int) : couplingNumbers.Restores x := by
  refine Restores.refine (restores_ints _) fun _ ↦ ?_
  simp only [Face.ofCode_code]
  rfl

theorem writes_coupling {c : Coupling} (h : c.IntegersFit) : coupling.Writes c := by
  obtain ⟨hid, hplace, hindex, hoption⟩ := h
  exact Writes.map (.pair (writes_int hid) <|
    .pair (writes_couplingNumbers hplace hindex hoption) <|
    .pair (writes_real _) <| .pair (writes_flag _) <| .pair (writes_real _) (writes_real _))

theorem restores_coupling (c : Coupling) : coupling.Restores c :=
  Restores.map (.pair (restores_int _) <| .pair (restores_couplingNumbers _) <|
    .pair (restores_real _) <| .pair (restores_flag _) <|
    .pair (restores_real _) (restores_real _)) rfl

theorem writes_numericalAquifer {a : NumericalAquifer} (h : a.IntegersFit)
    (hcells : CountFits a.cells) (hcouplings : CountFits a.couplings) :
    numericalAquifer.Writes a := by
  obtain ⟨hid, hc, hx⟩ := h
  exact Writes.map (.pair (writes_int hid) <|
    .pair (.counted hcells fun c hmem ↦ writes_storageCell (hc c hmem))
      (.counted hcouplings fun c hmem ↦ writes_coupling (hx c hmem)))

theorem restores_numericalAquifer (a : NumericalAquifer) : numericalAquifer.Restores a :=
  Restores.map (.pair (restores_int _) <|
    .pair (.counted fun c _ ↦ restores_storageCell c) (.counted fun c _ ↦ restores_coupling c)) rfl

theorem writes_collection {α : Type} [AnalyticKind α] {a : Codec α} {c : Collection α}
    (hn : CountFits c.toList) (h : ∀ x ∈ c.toList, a.Writes x) : (collection a).Writes c :=
  Writes.map (.counted hn h)

theorem restores_collection {α : Type} [AnalyticKind α] {a : Codec α} (ha : ∀ x, a.Restores x)
    {c : Collection α} (h : c.OwnKeys) : (collection a).Restores c :=
  Restores.map (.counted fun x _ ↦ ha x) (Collection.ofList_toList h)

theorem writes_registry {r : Registry} (hn : CountFits r.toList)
    (h : ∀ a ∈ r.toList, numericalAquifer.Writes a) : registry.Writes r :=
  Writes.map (.counted hn h)

theorem restores_registry {r : Registry} (h : r.OwnKeys) : registry.Restores r :=
  Restores.map (.counted fun a _ ↦ restores_numericalAquifer a) (Registry.ofList_toList h)

/-- Columns give the cells that they came from, under the number that is read with them. -/
theorem influxRows_columns (id : Int) (cs : List InfluxCell) :
    influxRows id (cs.map (·.index)) (cs.map (·.face.code)) (cs.map (·.coefficient)) =
      .ok (cs.map fun c ↦ { c with aquifer := id }) := by
  induction cs with
  | nil => rfl
  | cons c cs ih =>
    simp only [List.map_cons, influxRows, Face.ofCode_code, ih]
    rfl

theorem writes_influxColumns {e : Int × List InfluxCell} (h : InfluxCell.ListFits e)
    (hn : 8 * e.2.length < 2 ^ 31) : influxColumns.Writes e := by
  obtain ⟨hid, hindex⟩ := h
  refine Writes.refine (.pair (writes_int hid) <| .pair (writes_ints ?_ ?_) <|
    .pair (writes_ints ?_ ?_) (writes_reals ?_))
  · exact List.forall_mem_map.mpr hindex
  · rwa [List.length_map]
  · exact List.forall_mem_map.mpr fun c _ ↦ Face.integerFits_code c.face
  · rwa [List.length_map]
  · rwa [List.length_map]

theorem restores_influxColumns {e : Int × List InfluxCell} (h : ∀ c ∈ e.2, c.aquifer = e.1) :
    influxColumns.Restores e := by
  refine Restores.refine (.pair (restores_int _) <| .pair (restores_ints _) <|
    .pair (restores_ints _) (restores_reals _)) fun n ↦ ?_
  have hown : (e.2.map fun c ↦ { c with aquifer := e.1 }) = e.2 :=
    (List.map_congr_left fun c hc ↦ by rw [← h c hc]; rfl).trans (List.map_id _)
  simp only [List.length_map, and_self, if_true, influxRows_columns, hown]
  rfl

theorem writes_influx {x : Influx} (hn : CountFits x.cells.entries)
    (h : ∀ e ∈ x.cells.entries, influxColumns.Writes e) : influx.Writes x :=
  Writes.map (.counted hn h)

theorem restores_influx {x : Influx} (h : x.OwnKeys) : influx.Restores x := by
  refine Restores.map (.counted fun e he ↦ restores_influxColumns (h e he)) ?_
  rw [Keyed.ofList_entries]

theorem restores_solutionKind (k : SolutionKind) : solutionKind.Restores k :=
  Restores.refine (restores_int _) fun _ ↦ SolutionKind.ofCode_code k

theorem restores_fetkovichConstants (c : FetkovichConstants) : fetkovichConstants.Restores c :=
  Restores.refine (restores_reals _) fun _ ↦ rfl

theorem restores_solutionValues (x : Double × Double × Double × Double × Double) :
    solutionValues.Restores x :=
  Restores.refine (restores_reals _) fun _ ↦ rfl

theorem restores_solution (s : Solution) : solution.Restores s :=
  Restores.map (.pair (restores_int _) <| .pair (restores_solutionKind _) <|
    .pair (restores_solutionValues _) (.optional fun c _ ↦ restores_fetkovichConstants c)) rfl

theorem restores_solutions (s : Solutions) : solutions.Restores s :=
  Restores.map (.counted fun _ _ ↦ .pair (restores_int _) (restores_solution _))
    (Keyed.ofList_entries s)

structure Compositional (P : ∀ α : Type, Codec α → Prop) : Prop where
  int : P Int int
  real : P Double real
  reals : P (List Double) reals
  pair {α β : Type} {a : Codec α} {b : Codec β} : P α a → P β b → P (α × β) (a.pair b)
  map {α β : Type} {a : Codec α} {form : α → β} {unform : β → α} :
    P α a → P β (a.map form unform)
  optional {α : Type} {a : Codec α} : P α a → P (Option α) (optional a)
  counted {α : Type} {a : Codec α} : P α a → P (List α) (counted a)

namespace Compositional

variable {P : ∀ α : Type, Codec α → Prop}

theorem fetkovich (h : Compositional P) : P Fetkovich fetkovich :=
  h.map <| h.pair h.int <| h.pair h.real <| h.pair h.real <| h.pair h.real <| h.pair h.real <|
    h.pair h.int <| h.pair (h.optional h.real) <| h.pair h.real <| h.optional h.real

theorem carterTracy (h : Compositional P) : P CarterTracy carterTracy :=
  h.map <| h.pair h.int <| h.pair h.real <| h.pair h.real <| h.pair h.real <| h.pair h.real <|
    h.pair h.real <| h.pair h.real <| h.pair h.real <| h.pair h.int <| h.pair h.int <|
    h.pair (h.optional h.real) <| h.pair h.reals h.reals

theorem constantFlux (h : Compositional P) : P ConstantFlux constantFlux :=
  h.map <| h.pair h.int <| h.pair h.real <| h.pair h.real <|
    h.pair (h.optional h.real) (h.optional h.real)

theorem storageCell (h : Compositional P) (hcell : P (Coord × Int) cellNumbers) :
    P StorageCell storageCell :=
  h.map <| h.pair h.int <| h.pair hcell <| h.pair h.real <| h.pair h.real <| h.pair h.real <|
    h.pair h.real <| h.pair h.real <| h.pair h.int <| h.pair h.int <| h.optional h.real

theorem coupling (h : Compositional P)
    (hcoupling : P (Coord × Int × Face × Int) couplingNumbers) : P Coupling coupling :=
  h.map <| h.pair h.int <| h.pair hcoupling <| h.pair h.real <| h.pair (h.map h.int) <|
    h.pair h.real h.real

theorem numericalAquifer (h : Compositional P) (hcell : P (Coord × Int) cellNumbers)
    (hcoupling : P (Coord × Int × Face × Int) couplingNumbers) :
    P NumericalAquifer numericalAquifer :=
  h.map <| h.pair h.int <|
    h.pair (h.counted <| h.storageCell hcell) (h.counted <| h.coupling hcoupling)

/-- Of a configuration, only the records that hold numbers of different meaning are left. -/
theorem configuration (h : Compositional P) (hcell : P (Coord × Int) cellNumbers)
    (hcoupling : P (Coord × Int × Face × Int) couplingNumbers)
    (hinflux : P (Int × List InfluxCell) influxColumns) : P Configuration configuration :=
  h.map <| h.pair (h.map <| h.counted h.fetkovich) <| h.pair (h.map <| h.counted h.carterTracy) <|
    h.pair (h.map <| h.counted h.constantFlux) <|
    h.pair (h.map <| h.counted <| h.numericalAquifer hcell hcoupling) <|
    h.map <| h.counted hinflux

theorem solution (h : Compositional P) (hkind : P SolutionKind solutionKind)
    (hvalues : P (Double × Double × Double × Double × Double) solutionValues)
    (hconstants : P FetkovichConstants fetkovichConstants) : P Solution solution :=
  h.map <| h.pair h.int <| h.pair hkind <| h.pair hvalues <| h.optional hconstants

theorem solutions (h : Compositional P) (hkind : P SolutionKind solutionKind)
    (hvalues : P (Double × Double × Double × Double × Double) solutionValues)
    (hconstants : P FetkovichConstants fetkovichConstants) : P Solutions solutions :=
  h.map <| h.counted <| h.pair h.int <| h.solution hkind hvalues hconstants

end Compositional

end Codec

end Aquifer
