import Aquifer.Proofs.Analytic.Kinds
import Aquifer.Proofs.Built
import Aquifer.Proofs.Written

namespace Aquifer

open Except

section Record

variable {r : Record} {schema : KeywordSchema} {s : ItemSchema} {face flag : String}

inductive Record.Misread (r : Record) (face flag : String) : Fault → Prop
  | face {t : String} (ht : r.trimmed face = .ok t) (h : ∀ f, Face.ofText t ≠ .ok f) :
      Misread r face flag (.badFace t)
  | flag {t : String} (ht : r.trimmed flag = .ok t) (h : ∀ b, readFlag t ≠ .ok b) :
      Misread r face flag (.notBoolean t)

theorem Face.eq_of_ofText_eq_error {t : String} {e : Fault} (h : ofText t = .error e) :
    e = .badFace t := by
  rw [ofText] at h
  split at h
  · cases h
  · exact (Except.error.inj h).symm

theorem eq_of_readFlag_eq_error {t : String} {e : Fault} (h : readFlag t = .error e) :
    e = .notBoolean t := by
  simp only [readFlag] at h
  split at h
  · cases h
  · split at h
    · cases h
    · exact (Except.error.inj h).symm

theorem failsWith_ofText {t : String} (ht : r.trimmed face = .ok t) :
    (Face.ofText t).FailsWith (r.Misread face flag) := by
  intro e he
  rw [Face.eq_of_ofText_eq_error he]
  refine .face ht fun f hf ↦ ?_
  rw [hf] at he
  cases he

theorem failsWith_readFlag {t : String} (ht : r.trimmed flag = .ok t) :
    (readFlag t).FailsWith (r.Misread face flag) := by
  intro e he
  rw [eq_of_readFlag_eq_error he]
  refine .flag ht fun b hb ↦ ?_
  rw [hb] at he
  cases he

theorem Record.Conforms.exists_trimmed (h : r.Conforms schema) (name : String)
    (hs : schema.items.find? (·.name == name) = some s) (ht : s.type = .text)
    (hv : s.filled = true) : ∃ t, r.trimmed name = .ok t := by
  obtain ⟨v, hget, htype⟩ := h.exists_get name hs (Or.inl hv)
  obtain ⟨t, rfl⟩ := Value.exists_text (htype.trans ht)
  exact ⟨_, by rw [trimmed, hget]; rfl⟩

end Record

section Terms

variable {r : Record} {g : Grid} {p : Properties} {override : Option ActiveMap}

theorem Coupling.failsWith_ofRecord (hr : r.Conforms .aqucon)
    (ho : ∀ m ∈ override, m.size = g.dims.size) :
    (ofRecord g override r).FailsWith (r.Misread "CONNECT_FACE" "ALLOW_INTERNAL_CELLS") := by
  obtain ⟨u, hu⟩ := hr.exists_trimmed "CONNECT_FACE" rfl rfl rfl
  obtain ⟨v, hv⟩ := hr.exists_trimmed "ALLOW_INTERNAL_CELLS" rfl rfl rfl
  obtain ⟨id, hid⟩ := hr.exists_int "ID" rfl rfl (Or.inl rfl)
  obtain ⟨box, hbox⟩ := Box.exists_ofRecord hr (by decide)
  simp only [ofRecord, hid, hbox, hu, hv, ok_bind]
  -- Nothing after the face and the flag can fail.
  refine .bind (failsWith_readFlag hv) fun b hb ↦ .bind (failsWith_ofText hu) fun f hf ↦ .of_ok ?_
  obtain ⟨cs, hcs⟩ := exists_ofRecord hr ho ⟨u, f, hu, hf⟩ ⟨v, b, hv, hb⟩
  simp only [ofRecord, hid, hbox, hu, hv, hb, hf, ok_bind] at hcs
  exact ⟨cs, hcs⟩

theorem Claim.failsWith_ofRecord (hr : r.Conforms .aquancon) :
    (ofRecord g r).FailsWith (r.Misread "FACE" "CONNECT_ADJOINING_ACTIVE_CELL") := by
  obtain ⟨u, hu⟩ := hr.exists_trimmed "FACE" rfl rfl rfl
  obtain ⟨v, hv⟩ := hr.exists_trimmed "CONNECT_ADJOINING_ACTIVE_CELL" rfl rfl rfl
  obtain ⟨id, hid⟩ := hr.exists_int "AQUIFER_ID" rfl rfl (Or.inl rfl)
  obtain ⟨box, hbox⟩ := Box.exists_ofRecord hr (by decide)
  simp only [ofRecord, hid, hbox, hu, hv, ok_bind]
  refine .bind (failsWith_ofText hu) fun f hf ↦ .bind (failsWith_readFlag hv) fun b hb ↦ .of_ok ?_
  obtain ⟨t, ht⟩ := ClaimTerms.exists_ofRecord hr ⟨u, f, hu, hf⟩ ⟨v, b, hv, hb⟩
  have hclaims := ClaimTerms.ofRecord_eq_claims (g := g) ht
  simp only [ofRecord, hid, hbox, hu, hv, hb, hf, ok_bind] at hclaims
  exact ⟨_, hclaims⟩

inductive Record.NoPorosity (r : Record) (p : Properties) : Fault → Prop
  | intro (hr : r.defaulted "PORO" = .ok true) (hp : p.hasReal "PORO" = false) :
      NoPorosity r p (.noRealProperty "PORO")

theorem StorageCell.failsWith_ofRecord {e : Int × Coord} (hr : r.Conforms .aqunum) (hp : p.Fits g)
    (h : r.storage = .ok e) (hc : g.Active e.2) : (ofRecord g p r).FailsWith (r.NoPorosity p) := by
  by_cases hporo : r.defaulted "PORO" = .ok true → p.hasReal "PORO" = true
  · exact .of_ok (exists_ofRecord hr hp hporo h hc)
  · -- The porosity is the first parameter to be read, so no other one can be missing before it.
    obtain ⟨hdefaulted, hmissing⟩ := Classical.not_imp.mp hporo
    rw [Bool.not_eq_true] at hmissing
    obtain ⟨i, j, k, -, hi, hj, hk, hplace⟩ := Record.ints_of_storage h
    rw [hplace] at hc
    obtain ⟨n, hn, -⟩ := Grid.exists_activeIndex hc.1 hc.2
    have hreal : p.real "PORO" = .error (.noRealProperty "PORO") := by
      rw [Properties.hasReal, Keyed.contains, Option.isSome_eq_false_iff,
        Option.isNone_iff_eq_none] at hmissing
      rw [Properties.real, hmissing]
    have herror : ofRecord g p r = .error (.noRealProperty "PORO") := by
      simp only [ofRecord, hi, hj, hk, Dims.index_of_contains hc.1, hn, Record.givenOr, hdefaulted,
        hreal, ok_bind]
      rfl
    intro f hf
    cases herror.symm.trans hf
    exact .intro hdefaulted hmissing

end Terms

/-- Why the aquifers of a deck cannot be read: an issue, a coupling whose face or flag is none, or a
cell whose porosity is neither given nor known. -/
inductive Deck.Refused (d : Deck) (p : Properties) : Fault → Prop
  | issue (i : Issue) : Refused d p (.issue i)
  | misread {r : Record} {e : Fault} (hr : r ∈ d.records "AQUCON")
      (h : r.Misread "CONNECT_FACE" "ALLOW_INTERNAL_CELLS" e) : Refused d p e
  | noPorosity {r : Record} {e : Fault} (hr : r ∈ d.records "AQUNUM") (h : r.NoPorosity p e) :
      Refused d p e

inductive Deck.InfluxRefused (d : Deck) : Fault → Prop
  | issue (i : Issue) : InfluxRefused d (.issue i)
  | misread {r : Record} {e : Fault} (hr : r ∈ d.records "AQUANCON")
      (h : r.Misread "FACE" "CONNECT_ADJOINING_ACTIVE_CELL" e) : InfluxRefused d e

section Deck

variable {P : Fault → Prop} {d : Deck} {g : Grid} {p : Properties} {override : Option ActiveMap}

theorem failsWith_mapError {α : Type} (hP : ∀ i, P (.issue i)) (x : Except Issue α) :
    (x.mapError Fault.issue).FailsWith P := by
  intro e he
  cases x with
  | ok a => exact nomatch he
  | error i =>
    cases he
    exact hP i

theorem Builder.failsWith_check {r : Record} {e : Int × Coord} (hP : ∀ i, P (.issue i))
    (h : r.storage = .ok e) : (check g r).FailsWith P := by
  obtain ⟨i, j, k, hid, hi, hj, hk, -⟩ := Record.ints_of_storage h
  intro f hf
  rw [check, hid, hi, hj, hk] at hf
  simp only [ok_bind] at hf
  split at hf
  · cases hf
    exact hP _
  · rename_i hin
    rw [Bool.not_eq_true', Bool.not_eq_false] at hin
    rw [Grid.cellActive_of_contains hin, ok_bind] at hf
    split at hf
    · cases hf
      exact hP _
    · cases hf

theorem Builder.failsWith_ofRecords (hd : d.Built) (hp : p.Fits g) :
    (ofRecords g p (d.records "AQUNUM")).FailsWith (d.Refused p) := by
  refine .foldlM (fun b r hr ↦ ?_) ∅
  have hconforms : r.Conforms .aqunum := hd.conforms rfl hr
  obtain ⟨e, he⟩ := hconforms.exists_storage
  refine .bind (failsWith_check .issue he) fun _ hcheck ↦ .bind ?_ fun c _ ↦ ?_
  · have hactive := (check_eq_ok_iff he).mp hcheck
    exact (StorageCell.failsWith_ofRecord hconforms hp he hactive).mono fun _ ↦ .noPorosity hr
  · exact failsWith_mapError .issue _

theorem Couplings.failsWith_ofDeck (hd : d.Built) (ho : ∀ m ∈ override, m.size = g.dims.size) :
    (ofDeck d g override).result.FailsWith (d.Refused p) := by
  rw [result_ofDeck]
  refine .foldlM (fun cs r hr ↦ .bind ?_ fun ys _ ↦ ?_) ∅
  · exact (Coupling.failsWith_ofRecord (hd.conforms rfl hr) ho).mono fun _ ↦ .misread hr
  · exact .foldlM (fun cs y _ ↦ failsWith_mapError .issue _) cs

theorem Registry.failsWith_ofDeck (hd : d.Built) (hp : p.Fits g)
    (ho : ∀ m ∈ override, m.size = g.dims.size) :
    (ofDeck d g p override).result.FailsWith (d.Refused p) := by
  cases hhas : d.has "AQUNUM" with
  | false => exact .of_ok ⟨∅, result_ofDeck_of_not_has hhas⟩
  | true =>
    rw [result_ofDeck_of_has hhas]
    refine .bind (Builder.failsWith_ofRecords hd hp) fun b _ ↦ ?_
    refine .bind (Couplings.failsWith_ofDeck hd ho) fun cs _ ↦ ?_
    refine .bind (.of_ok ⟨_, Builder.result_attachAquifers cs b.cells.keys b⟩) fun x _ ↦ ?_
    obtain ⟨b', _ | i⟩ := x
    · exact .of_ok ⟨_, rfl⟩
    · intro e he
      cases he
      exact .issue i

theorem Claim.failsWith_record (hP : ∀ i, P (.issue i)) (held : Keyed Int InfluxCell) (x : Claim) :
    (record held x).result.FailsWith P := by
  rw [record]
  split
  · exact .of_ok ⟨_, rfl⟩
  · split
    · intro e he
      cases he
      exact hP _
    · exact .of_ok ⟨_, rfl⟩

theorem Influx.failsWith_ofDeck (hd : d.Built) :
    (ofDeck d g).result.FailsWith d.InfluxRefused := by
  rw [ofDeck, Traced.result_bind, Traced.result_foldlM]
  refine .bind (.foldlM (fun held r hr ↦ ?_) ∅) fun held _ ↦ .of_ok ⟨_, rfl⟩
  simp only [Traced.result_bind, Traced.liftM_eq_ofExcept, Traced.result_ofExcept,
    Traced.result_foldlM]
  refine .bind ?_ fun xs _ ↦ .foldlM (fun held x _ ↦ Claim.failsWith_record .issue held x) held
  exact (Claim.failsWith_ofRecord (hd.conforms rfl hr)).mono fun _ ↦ .misread hr

section Collection

variable {α : Type} [AnalyticKind α] {build : Record → Except Fault α} {rs : List Record}

/-- A collection is read of records if an aquifer is read of each, and holds these. -/
theorem Collection.ofRecords_eq_ok_iff {c : Collection α} :
    ofRecords build rs = .ok c ↔ ∃ as, rs.mapM build = .ok as ∧ c = ofList as := by
  rw [ofRecords]
  refine foldlM_bind_eq_ok_iff.trans (exists_congr fun as ↦ and_congr_right fun _ ↦ ?_)
  have hadd : as.foldlM (fun c a ↦ (pure (c.add a) : Except Fault (Collection α))) ∅ =
      .ok (ofList as) := List.foldlM_pure
  rw [hadd]
  exact ⟨fun h ↦ (Except.ok.inj h).symm, fun h ↦ congrArg _ h.symm⟩

theorem Collection.exists_ofRecords (h : ∀ r ∈ rs, ∃ a, build r = .ok a) :
    ∃ c, ofRecords build rs = .ok c := by
  obtain ⟨as, has⟩ := exists_mapM_eq_ok h
  exact ⟨ofList as, ofRecords_eq_ok_iff.mpr ⟨as, has, rfl⟩⟩

end Collection

theorem Deck.Refused.reports {f : Fault} (h : d.Refused p f) : f.Reports f.reported := by
  cases h with
  | issue i => exact Fault.reports_issue i
  | misread _ h => cases h <;> exact .same nofun
  | noPorosity _ h =>
    cases h
    exact .same nofun

theorem Deck.InfluxRefused.reports {f : Fault} (h : d.InfluxRefused f) : f.Reports f.reported := by
  cases h with
  | issue i => exact Fault.reports_issue i
  | misread _ h => cases h <;> exact .same nofun

/-- Reading a deck fails for what its records say about couplings, porosities and claims, and for
issues between them. Whatever numbers the records hold, nothing else can go wrong, but an issue
about an integer with too many digits cannot be reported. -/
theorem Configuration.refused_of_built {reals tables : Keyed String Raw} (hd : d.Built)
    (hp : Properties.ofArrays g reals tables = .ok p)
    (ho : ∀ m ∈ override, m.size = g.dims.size) :
    (∀ e, (Configuration.ofDeck d g p none override).result = .error e →
      ∃ f, (Registry.ofDeck d g p override).result = .error f ∧ d.Refused p f ∧ f.Reports e) ∧
    ∀ c e, (Configuration.loadInflux c d g).result = .error e →
      ∃ f, (Influx.ofDeck d g).result = .error f ∧ d.InfluxRefused f ∧ f.Reports e := by
  constructor
  · intro e he
    obtain ⟨fetkovich, hfetkovich⟩ : ∃ c, d.fetkovich = .ok c :=
      Collection.exists_ofRecords fun r hr ↦ Fetkovich.exists_ofRecord (hd.conforms rfl hr)
    obtain ⟨carterTracy, hcarterTracy⟩ : ∃ c, d.carterTracy none = .ok c :=
      Collection.exists_ofRecords fun r hr ↦ CarterTracy.exists_ofRecord (hd.conforms rfl hr)
    obtain ⟨constantFlux, hconstantFlux⟩ : ∃ c, d.constantFlux = .ok c :=
      Collection.exists_ofRecords fun r hr ↦ ConstantFlux.exists_ofRecord (hd.conforms rfl hr)
    rw [Configuration.result_ofDeck, hfetkovich, hcarterTracy, hconstantFlux] at he
    cases hr : (Registry.ofDeck d g p override).result with
    | ok r =>
      rw [hr] at he
      cases he
    | error f =>
      have hf := Registry.failsWith_ofDeck hd (Properties.fits_of_ofArrays hp) ho f hr
      rw [hr] at he
      cases he
      exact ⟨f, rfl, hf, hf.reports⟩
  · intro c e he
    rw [Configuration.loadInflux, Traced.result_bind] at he
    cases hx : (Influx.ofDeck d g).result with
    | ok x =>
      rw [Traced.result_reported, hx] at he
      cases he
    | error f =>
      have hf := Influx.failsWith_ofDeck hd f hx
      rw [Traced.result_reported, hx] at he
      cases he
      exact ⟨f, rfl, hf, hf.reports⟩

def bareDeck : Deck := .ofRows .metric [(.aqunum, [.storage 1 ⟨2, 1, 1⟩ .missing])]

theorem built_bareDeck : bareDeck.Built := Deck.built_ofRows rfl rfl

theorem Configuration.refused_of_built_bare :
    (Configuration.ofDeck bareDeck .pair Registry.pairProperties none none).result =
        .error (.noRealProperty "PORO") ∧
      ∃ f, (Registry.ofDeck bareDeck .pair Registry.pairProperties none).result = .error f ∧
        bareDeck.Refused Registry.pairProperties f ∧ f.Reports (.noRealProperty "PORO") := by
  have hp : Properties.ofArrays .pair ∅ ∅ = .ok Registry.pairProperties := rfl
  have ho : ∀ m ∈ (none : Option ActiveMap), m.size = Grid.pair.dims.size := nofun
  obtain ⟨hrefused, -⟩ := Configuration.refused_of_built built_bareDeck hp ho
  have hmissing : (Configuration.ofDeck bareDeck .pair Registry.pairProperties none none).result =
      .error (.noRealProperty "PORO") := rfl
  exact ⟨hmissing, hrefused _ hmissing⟩

def farDeck (i : Int) : Deck := .ofRows .metric [(.aqunum, [.storage 1 ⟨i, 1, 1⟩])]

theorem built_farDeck (i : Int) : (farDeck i).Built :=
  Deck.built_ofRows rfl rfl

theorem result_ofDeck_farDeck {i : Int} (hi : 2 < i) :
    (Registry.ofDeck (farDeck i) .pair p none).result =
      .error (.issue ⟨1, some ⟨i, 1, 1⟩,
        .unusableCell s!"is outside grid of size {shapeText Grid.pair.dims.shape}"⟩) := by
  have hstorage : (Record.ofItems (.storage 1 ⟨i, 1, 1⟩) .aqunum).storage =
      .ok (1, (Coord.mk i 1 1).zeroBased) := rfl
  have hout : ¬Grid.pair.dims.contains (Coord.mk i 1 1).zeroBased = true := by
    rw [Dims.contains_iff]
    intro h
    have hlt : i - 1 < 2 := h.1.2
    omega
  have hrecords : (farDeck i).records "AQUNUM" = [.ofItems (.storage 1 ⟨i, 1, 1⟩) .aqunum] := rfl
  rw [Registry.result_ofDeck_of_has rfl, Builder.ofRecords, hrecords, List.foldlM_cons,
    Builder.addRecord, Builder.check_eq hstorage, if_neg hout, Coord.oneBased_zeroBased]
  rfl

/-- An issue that shows an integer with too many digits is not reported as one. -/
theorem Configuration.result_ofDeck_unwritable : ∃ n : Nat, n = 10 ^ Number.maxDigits ∧
    (farDeck n).Built ∧
    (∃ x, (Registry.ofDeck (farDeck n) .pair Registry.pairProperties none).result =
      .error (.issue x)) ∧
    (Configuration.ofDeck (farDeck n) .pair Registry.pairProperties none none).result =
      .error .notANumber := by
  have hfar : 2 < 10 ^ Number.maxDigits := Number.lt_pow_maxDigits (by decide)
  have hlong := Number.not_writable_pow
  generalize 10 ^ Number.maxDigits = n at hfar hlong
  have hresult := result_ofDeck_farDeck (p := Registry.pairProperties) (i := n) (by omega)
  refine ⟨n, rfl, built_farDeck n, ⟨_, hresult⟩, ?_⟩
  have hfetkovich : (farDeck n).fetkovich = .ok ∅ := rfl
  have hcarterTracy : (farDeck n).carterTracy none = .ok ∅ := rfl
  have hconstantFlux : (farDeck n).constantFlux = .ok ∅ := rfl
  rw [Configuration.result_ofDeck, hfetkovich, hcarterTracy, hconstantFlux, hresult]
  refine congrArg error (Fault.reported_issue_of_not ⟨n, ?_, hlong⟩)
  exact List.mem_cons_of_mem _ (List.mem_cons_self ..)

end Deck

end Aquifer
