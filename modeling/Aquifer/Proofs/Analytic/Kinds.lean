import Aquifer.Analytic.Collection
import Aquifer.Proofs.Deck.Record

namespace Aquifer

open Except

namespace Record

variable {r : Record} {schema : KeywordSchema} {s : ItemSchema} {name : String}

/-- An item that was given and has no value counts as not given. -/
theorem givenSI_eq {i : Item} (hi : r.item name = .ok i) : r.givenSI name =
    if i.defaulted || !i.value.isSome then .ok none else some <$> r.si name := by
  rw [givenSI, defaulted, hasValue, hi]
  rfl

namespace Conforms

theorem exists_givenSI (h : r.Conforms schema) (name : String)
    (hs : schema.items.find? (·.name == name) = some s) (ht : s.type = .real) :
    ∃ x, r.givenSI name = .ok x := by
  obtain ⟨i, hi, -⟩ := h.exists_item name hs
  rw [givenSI_eq hi]
  cases hgiven : i.defaulted with
  | true => exact ⟨none, rfl⟩
  | false =>
    have hdefaulted : r.defaulted name = .ok false := by rw [defaulted, hi, ← hgiven]; rfl
    obtain ⟨x, hx⟩ := h.exists_si name hs ht (Or.inr hdefaulted)
    rw [hx]
    cases i.value with
    | none => exact ⟨none, rfl⟩
    | some v => exact ⟨some x, rfl⟩

/-- An item of a schema that was given has a value, so what is not there was not given. -/
theorem measuresIfGiven_of_givenSI (h : r.Conforms schema) (name : String)
    (hs : schema.items.find? (·.name == name) = some s) (ht : s.type = .real)
    (hw : s.wellTyped = true) {d : Dimension} (hd : s.dimension = d) {x : Option Double}
    (hx : r.givenSI name = .ok x) : r.MeasuresIfGiven name d x := by
  obtain ⟨i, hi, hconforms⟩ := h.exists_item name hs
  have hdefaulted : r.defaulted name = .ok i.defaulted := by rw [defaulted, hi]; rfl
  rw [givenSI_eq hi] at hx
  cases hgiven : i.defaulted with
  | true =>
    rw [hgiven] at hdefaulted hx
    exact Or.inr ⟨hdefaulted, hx⟩
  | false =>
    obtain ⟨v, hv, -⟩ := hconforms.given hgiven
    rw [hgiven] at hdefaulted
    rw [hgiven, hv] at hx
    obtain ⟨y, hy, rfl⟩ := map_eq_ok_iff.mp hx
    exact Or.inl ⟨hdefaulted, y, rfl, h.measures_of_si name hs ht hw hd hy⟩

end Conforms

end Record

section Kinds

variable {r : Record}

theorem Fetkovich.exists_ofRecord (hr : r.Conforms .aqufetp) : ∃ a, ofRecord r = .ok a := by
  obtain ⟨id, hid⟩ := hr.exists_int "AQUIFER_ID" rfl rfl (Or.inl rfl)
  obtain ⟨depth, hdepth⟩ := hr.exists_si "DAT_DEPTH" rfl rfl (Or.inl rfl)
  obtain ⟨volume, hvolume⟩ := hr.exists_si "V0" rfl rfl (Or.inl rfl)
  obtain ⟨compressibility, hcompressibility⟩ := hr.exists_si "C_T" rfl rfl (Or.inl rfl)
  obtain ⟨productivity, hproductivity⟩ := hr.exists_si "PI" rfl rfl (Or.inl rfl)
  obtain ⟨table, htable⟩ := hr.exists_int "TABLE_NUM_WATER_PRESS" rfl rfl (Or.inl rfl)
  obtain ⟨pressure, hpressure⟩ := hr.exists_givenSI "P0" rfl rfl
  obtain ⟨salinity, hsalinity⟩ := hr.exists_si "SALINITY" rfl rfl (Or.inl rfl)
  obtain ⟨temperature, htemperature⟩ := hr.exists_givenSI "TEMP" rfl rfl
  exact ⟨_, by
    simp only [ofRecord, hid, hdepth, hvolume, hcompressibility, hproductivity, htable, hpressure,
      hsalinity, htemperature, ok_bind]
    rfl⟩

structure Fetkovich.Describes (a : Fetkovich) (r : Record) : Prop where
  id : r.HasInt "AQUIFER_ID" a.id
  datumDepth : r.Measures "DAT_DEPTH" .length a.datumDepth
  initialVolume : r.Measures "V0" .volume a.initialVolume
  compressibility : r.Measures "C_T" .compressibility a.compressibility
  productivity : r.Measures "PI" .productivity a.productivity
  pvtTable : r.HasInt "TABLE_NUM_WATER_PRESS" a.pvtTable
  initialPressure : r.MeasuresIfGiven "P0" .pressure a.initialPressure
  salinity : r.Measures "SALINITY" .salinity a.salinity
  temperature : r.MeasuresIfGiven "TEMP" .temperature a.temperature

theorem Fetkovich.describes_of_ofRecord (hr : r.Conforms .aqufetp) {a : Fetkovich}
    (h : ofRecord r = .ok a) : a.Describes r := by
  simp only [ofRecord, bind_eq_ok_iff] at h
  obtain ⟨id, hid, depth, hdepth, volume, hvolume, compressibility, hcompressibility, productivity,
    hproductivity, table, htable, pressure, hpressure, salinity, hsalinity, temperature,
    htemperature, h⟩ := h
  cases h
  exact ⟨hr.hasInt_of_int "AQUIFER_ID" rfl rfl rfl hid,
    hr.measures_of_si "DAT_DEPTH" rfl rfl rfl rfl hdepth,
    hr.measures_of_si "V0" rfl rfl rfl rfl hvolume,
    hr.measures_of_si "C_T" rfl rfl rfl rfl hcompressibility,
    hr.measures_of_si "PI" rfl rfl rfl rfl hproductivity,
    hr.hasInt_of_int "TABLE_NUM_WATER_PRESS" rfl rfl rfl htable,
    hr.measuresIfGiven_of_givenSI "P0" rfl rfl rfl rfl hpressure,
    hr.measures_of_si "SALINITY" rfl rfl rfl rfl hsalinity,
    hr.measuresIfGiven_of_givenSI "TEMP" rfl rfl rfl rfl htemperature⟩

theorem CarterTracy.exists_ofRecord_of_influence (hr : r.Conforms .aquct)
    {tables : Option InfluenceTables} (ht : ∀ n, ∃ t, influence tables n = .ok t) :
    ∃ a, ofRecord tables r = .ok a := by
  obtain ⟨n, hn⟩ := hr.exists_int "TABLE_NUM_INFLUENCE_FN" rfl rfl (Or.inl rfl)
  obtain ⟨⟨times, pressures⟩, htable⟩ := ht n
  obtain ⟨id, hid⟩ := hr.exists_int "AQUIFER_ID" rfl rfl (Or.inl rfl)
  obtain ⟨depth, hdepth⟩ := hr.exists_si "DAT_DEPTH" rfl rfl (Or.inl rfl)
  obtain ⟨permeability, hpermeability⟩ := hr.exists_si "PERM_AQ" rfl rfl (Or.inl rfl)
  obtain ⟨porosity, hporosity⟩ := hr.exists_si "PORO_AQ" rfl rfl (Or.inl rfl)
  obtain ⟨compressibility, hcompressibility⟩ := hr.exists_si "C_T" rfl rfl (Or.inl rfl)
  obtain ⟨radius, hradius⟩ := hr.exists_si "RAD" rfl rfl (Or.inl rfl)
  obtain ⟨thickness, hthickness⟩ := hr.exists_si "THICKNESS_AQ" rfl rfl (Or.inl rfl)
  obtain ⟨angle, hangle⟩ := hr.exists_si "INFLUENCE_ANGLE" rfl rfl (Or.inl rfl)
  obtain ⟨pvt, hpvt⟩ := hr.exists_int "TABLE_NUM_WATER_PRESS" rfl rfl (Or.inl rfl)
  obtain ⟨pressure, hpressure⟩ := hr.exists_givenSI "P_INI" rfl rfl
  exact ⟨_, by
    simp only [ofRecord, htable, hn, hid, hdepth, hpermeability, hporosity, hcompressibility,
      hradius, hthickness, hangle, hpvt, hpressure, ok_bind]
    rfl⟩

theorem CarterTracy.exists_ofRecord (hr : r.Conforms .aquct) : ∃ a, ofRecord none r = .ok a :=
  exists_ofRecord_of_influence hr fun _ ↦ ⟨_, rfl⟩

structure CarterTracy.Describes (a : CarterTracy) (tables : Option InfluenceTables) (r : Record) :
    Prop where
  id : r.HasInt "AQUIFER_ID" a.id
  datumDepth : r.Measures "DAT_DEPTH" .length a.datumDepth
  permeability : r.Measures "PERM_AQ" .permeability a.permeability
  porosity : r.Measures "PORO_AQ" .one a.porosity
  compressibility : r.Measures "C_T" .compressibility a.compressibility
  innerRadius : r.Measures "RAD" .length a.innerRadius
  thickness : r.Measures "THICKNESS_AQ" .length a.thickness
  influenceAngle : r.Measures "INFLUENCE_ANGLE" .one a.influenceAngle
  pvtTable : r.HasInt "TABLE_NUM_WATER_PRESS" a.pvtTable
  influenceTable : r.HasInt "TABLE_NUM_INFLUENCE_FN" a.influenceTable
  initialPressure : r.MeasuresIfGiven "P_INI" .pressure a.initialPressure
  functions : influence tables a.influenceTable = .ok (a.times, a.pressures)

theorem CarterTracy.describes_of_ofRecord (hr : r.Conforms .aquct)
    {tables : Option InfluenceTables} {a : CarterTracy} (h : ofRecord tables r = .ok a) :
    a.Describes tables r := by
  simp only [ofRecord, bind_eq_ok_iff] at h
  obtain ⟨n, hn, ⟨times, pressures⟩, hfunctions, id, hid, depth, hdepth, permeability,
    hpermeability, porosity, hporosity, compressibility, hcompressibility, radius, hradius,
    thickness, hthickness, angle, hangle, pvt, hpvt, pressure, hpressure, h⟩ := h
  cases h
  exact ⟨hr.hasInt_of_int "AQUIFER_ID" rfl rfl rfl hid,
    hr.measures_of_si "DAT_DEPTH" rfl rfl rfl rfl hdepth,
    hr.measures_of_si "PERM_AQ" rfl rfl rfl rfl hpermeability,
    hr.measures_of_si "PORO_AQ" rfl rfl rfl rfl hporosity,
    hr.measures_of_si "C_T" rfl rfl rfl rfl hcompressibility,
    hr.measures_of_si "RAD" rfl rfl rfl rfl hradius,
    hr.measures_of_si "THICKNESS_AQ" rfl rfl rfl rfl hthickness,
    hr.measures_of_si "INFLUENCE_ANGLE" rfl rfl rfl rfl hangle,
    hr.hasInt_of_int "TABLE_NUM_WATER_PRESS" rfl rfl rfl hpvt,
    hr.hasInt_of_int "TABLE_NUM_INFLUENCE_FN" rfl rfl rfl hn,
    hr.measuresIfGiven_of_givenSI "P_INI" rfl rfl rfl rfl hpressure, hfunctions⟩

theorem ConstantFlux.exists_ofRecord (hr : r.Conforms .aquflux) : ∃ a, ofRecord r = .ok a := by
  obtain ⟨id, hid⟩ := hr.exists_int "AQUIFER_ID" rfl rfl (Or.inl rfl)
  obtain ⟨flux, hflux⟩ := hr.exists_si "FLUX" rfl rfl (Or.inl rfl)
  obtain ⟨salt, hsalt⟩ := hr.exists_si "SC_0" rfl rfl (Or.inl rfl)
  obtain ⟨temperature, htemperature⟩ := hr.exists_givenSI "TEMP" rfl rfl
  obtain ⟨pressure, hpressure⟩ := hr.exists_givenSI "PRESSURE" rfl rfl
  exact ⟨_, by
    simp only [ofRecord, hid, hflux, hsalt, htemperature, hpressure, ok_bind]
    rfl⟩

structure ConstantFlux.Describes (a : ConstantFlux) (r : Record) : Prop where
  id : r.HasInt "AQUIFER_ID" a.id
  flux : r.Measures "FLUX" .fluxPerArea a.flux
  saltConcentration : r.Measures "SC_0" .salinity a.saltConcentration
  temperature : r.MeasuresIfGiven "TEMP" .temperature a.temperature
  datumPressure : r.MeasuresIfGiven "PRESSURE" .pressure a.datumPressure

theorem ConstantFlux.describes_of_ofRecord (hr : r.Conforms .aquflux) {a : ConstantFlux}
    (h : ofRecord r = .ok a) : a.Describes r := by
  simp only [ofRecord, bind_eq_ok_iff] at h
  obtain ⟨id, hid, flux, hflux, salt, hsalt, temperature, htemperature, pressure, hpressure, h⟩ := h
  cases h
  exact ⟨hr.hasInt_of_int "AQUIFER_ID" rfl rfl rfl hid,
    hr.measures_of_si "FLUX" rfl rfl rfl rfl hflux,
    hr.measures_of_si "SC_0" rfl rfl rfl rfl hsalt,
    hr.measuresIfGiven_of_givenSI "TEMP" rfl rfl rfl rfl htemperature,
    hr.measuresIfGiven_of_givenSI "PRESSURE" rfl rfl rfl rfl hpressure⟩

end Kinds

end Aquifer
