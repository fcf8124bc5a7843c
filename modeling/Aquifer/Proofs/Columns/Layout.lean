import Aquifer.Columns.Layout
import Aquifer.Proofs.Columns.Table

namespace Aquifer

namespace Table

theorem spreads_fetkovich : fetkovich.Spreads Fetkovich.IntegersFit := by
  refine (Spreads.map (.pair (spreads_int _) <| .pair (spreads_real _) <|
    .pair (spreads_real _) <| .pair (spreads_real _) <| .pair (spreads_real _) <|
    .pair (spreads_int _) <| .pair (spreads_optional _) <|
    .pair (spreads_real _) (spreads_optional _))).of_imp fun a h ↦ ?_
  obtain ⟨hid, hpvt⟩ := h
  exact ⟨hid, trivial, trivial, trivial, trivial, hpvt, trivial, trivial, trivial⟩

theorem gathers_fetkovich : fetkovich.Gathers :=
  Gathers.map (.pair (gathers_int _) <| .pair (gathers_real _) <| .pair (gathers_real _) <|
    .pair (gathers_real _) <| .pair (gathers_real _) <| .pair (gathers_int _) <|
    .pair (gathers_optional _) <| .pair (gathers_real _) (gathers_optional _)) fun _ ↦ rfl

theorem named_fetkovich : fetkovich.Named ["id", "datum_depth", "initial_volume",
    "total_compressibility", "productivity_index", "pvt_table", "initial_pressure",
    maskOf "initial_pressure", "salinity", "temperature", maskOf "temperature"] :=
  Named.map (.pair (named_int _) <| .pair (named_real _) <| .pair (named_real _) <|
    .pair (named_real _) <| .pair (named_real _) <| .pair (named_int _) <|
    .pair (named_optional _) <| .pair (named_real _) (named_optional _))

theorem spreads_carterTracyParameters :
    carterTracyParameters.Spreads CarterTracy.IntegersFit := by
  refine (Spreads.map (.pair (spreads_int _) <| .pair (spreads_real _) <|
    .pair (spreads_real _) <| .pair (spreads_real _) <| .pair (spreads_real _) <|
    .pair (spreads_real _) <| .pair (spreads_real _) <| .pair (spreads_real _) <|
    .pair (spreads_int _) <| .pair (spreads_int _) (spreads_optional _))).of_imp fun a h ↦ ?_
  obtain ⟨hid, hpvt, htable⟩ := h
  exact ⟨hid, trivial, trivial, trivial, trivial, trivial, trivial, trivial, hpvt, htable, trivial⟩

theorem row_carterTracyParameters {as : List CarterTracy} {cols : List (String × Column)}
    {s : Section} (h : carterTracyParameters.columns as = .ok cols) (hs : s.Has cols) {n : Nat}
    {a : CarterTracy} (hn : as[n]? = some a) :
    carterTracyParameters.row s n = .ok { a with times := [], pressures := [] } :=
  row_map (.pair (gathers_int _) <| .pair (gathers_real _) <| .pair (gathers_real _) <|
    .pair (gathers_real _) <| .pair (gathers_real _) <| .pair (gathers_real _) <|
    .pair (gathers_real _) <| .pair (gathers_real _) <| .pair (gathers_int _) <|
    .pair (gathers_int _) (gathers_optional _)) h hs hn

theorem named_carterTracyParameters : carterTracyParameters.Named ["id", "datum_depth",
    "permeability", "porosity", "total_compressibility", "inner_radius", "thickness",
    "influence_angle", "pvt_table", "influence_table", "initial_pressure",
    maskOf "initial_pressure"] :=
  Named.map (.pair (named_int _) <| .pair (named_real _) <| .pair (named_real _) <|
    .pair (named_real _) <| .pair (named_real _) <| .pair (named_real _) <|
    .pair (named_real _) <| .pair (named_real _) <| .pair (named_int _) <|
    .pair (named_int _) (named_optional _))

section Offsets

variable {xss : List (List Double)} {xs : List Double} {n : Nat}

theorem getElem?_offsets (first : Int) (h : n ≤ xss.length) :
    (offsets first xss)[n]? = some (first + (xss.take n).flatten.length) := by
  induction xss generalizing first n with
  | nil =>
    cases Nat.le_zero.mp h
    simp [offsets]
  | cons xs xss ih =>
    cases n with
    | zero => simp [offsets]
    | succ n =>
      have hn : n ≤ xss.length := Nat.le_of_succ_le_succ h
      rw [offsets, List.getElem?_cons_succ, ih _ hn, List.take_succ_cons, List.flatten_cons,
        List.length_append]
      congr 1
      omega

theorem flatten_eq_take_drop (xss : List (List Double)) (n : Nat) :
    xss.flatten = (xss.take n).flatten ++ (xss.drop n).flatten := by
  rw [← List.flatten_append, List.take_append_drop]

theorem length_take_flatten_le (xss : List (List Double)) (n : Nat) :
    (xss.take n).flatten.length ≤ xss.flatten.length := by
  rw [flatten_eq_take_drop xss n, List.length_append]
  exact Nat.le_add_right _ _

theorem offsets_length (first : Int) (xss : List (List Double)) :
    (offsets first xss).length = xss.length + 1 := by
  induction xss generalizing first with
  | nil => rfl
  | cons xs xss ih => rw [offsets, List.length_cons, ih, List.length_cons]

theorem offsets_fit (h : CountFits xss.flatten) : ∀ m ∈ offsets 0 xss, IntegerFits m := by
  intro m hm
  obtain ⟨n, hn⟩ := List.mem_iff_getElem?.mp hm
  obtain ⟨hlt, -⟩ := List.getElem?_eq_some_iff.mp hn
  rw [offsets_length] at hlt
  rw [getElem?_offsets 0 (Nat.le_of_lt_succ hlt)] at hn
  cases hn
  have hle := length_take_flatten_le xss n
  rw [countFits_iff] at h
  rw [integerFits_iff]
  omega

theorem take_succ_flatten (hn : xss[n]? = some xs) :
    (xss.take (n + 1)).flatten = (xss.take n).flatten ++ xs := by
  rw [List.take_add_one, hn, List.flatten_append]
  exact congrArg _ (List.append_nil xs)

/-- The entries between the offset of a list and the next are the list. -/
theorem cut_flatten (hn : xss[n]? = some xs) :
    cut xss.flatten ((xss.take n).flatten.length : Int) ((xss.take (n + 1)).flatten.length : Int) =
      xs := by
  have htake := length_take_flatten_le xss (n + 1)
  have hdrop : (xss.take n).flatten.length ≤ (xss.take (n + 1)).flatten.length := by
    rw [take_succ_flatten hn, List.length_append]
    exact Nat.le_add_right _ _
  simp only [cut, cutBound, Int.natCast_nonneg, if_true, Int.toNat_natCast,
    Nat.min_eq_left htake, Nat.min_eq_left (Nat.le_trans hdrop htake)]
  have hlast : xss.flatten.take (xss.take (n + 1)).flatten.length = (xss.take (n + 1)).flatten := by
    conv => lhs; rw [flatten_eq_take_drop xss (n + 1)]
    exact List.take_left
  rw [hlast, take_succ_flatten hn, List.drop_left]

theorem bounds_eq {s : Section} {name : String} {cs : List (String × Column)}
    (hs : s.Has ((name, .ints (offsets 0 xss)) :: cs)) (hn : xss[n]? = some xs) :
    bounds s name n = .ok (((xss.take n).flatten.length : Int),
      ((xss.take (n + 1)).flatten.length : Int)) := by
  obtain ⟨hlt, -⟩ := List.getElem?_eq_some_iff.mp hn
  have hfirst := getElem?_offsets 0 (Nat.le_of_lt hlt)
  have hlast := getElem?_offsets 0 (Nat.succ_le_of_lt hlt)
  simp only [bounds, hs.entry, row_ints hfirst, row_ints hlast, Int.zero_add]
  rfl

theorem mapM_toReal (xs : List Double) : (xs.map Raw.real).mapM Raw.toReal = .ok xs := by
  induction xs with
  | nil => rfl
  | cons x xs ih =>
    simp only [List.map_cons, List.mapM_cons, ih]
    rfl

theorem reals_eq {s : Section} {name : String} {cs : List (String × Column)}
    (hs : s.Has ((name, .reals xs) :: cs)) (first last : Int) :
    s.reals name first last = .ok (cut xs first last) := by
  have hcolumn : s.column name = .ok (.reals xs) := hs _ (List.mem_cons_self ..)
  rw [Section.reals, hcolumn]
  exact mapM_toReal _

end Offsets

theorem columns_carterTracy_eq_ok_iff {as : List CarterTracy} {cols : List (String × Column)} :
    carterTracy.columns as = .ok cols ↔
      ∃ ps, carterTracyParameters.columns as = .ok ps ∧
        (∀ n ∈ offsets 0 (as.map (·.times)), IntegerFits n) ∧
        (∀ n ∈ offsets 0 (as.map (·.pressures)), IntegerFits n) ∧
        ps ++ [("time_offsets", .ints (offsets 0 (as.map (·.times)))),
          ("pressure_offsets", .ints (offsets 0 (as.map (·.pressures)))),
          ("dimensionless_time", .reals (as.map (·.times)).flatten),
          ("dimensionless_pressure", .reals (as.map (·.pressures)).flatten)] = cols := by
  simp only [carterTracy, Except.bind_eq_ok_iff, Column.ofInts_eq_ok_iff]
  constructor
  · intro h
    obtain ⟨ps, hps, _, ⟨ht, rfl⟩, _, ⟨hp, rfl⟩, h⟩ := h
    exact ⟨ps, hps, ht, hp, Except.ok.inj h⟩
  · intro h
    obtain ⟨ps, hps, ht, hp, h⟩ := h
    exact ⟨ps, hps, _, ⟨ht, rfl⟩, _, ⟨hp, rfl⟩, congrArg Except.ok h⟩

theorem exists_columns_carterTracy {as : List CarterTracy} (h : ∀ a ∈ as, a.IntegersFit)
    (ht : CountFits (as.map (·.times)).flatten) (hp : CountFits (as.map (·.pressures)).flatten) :
    ∃ cols, carterTracy.columns as = .ok cols := by
  obtain ⟨ps, hps⟩ := spreads_carterTracyParameters as h
  exact ⟨_, columns_carterTracy_eq_ok_iff.mpr ⟨ps, hps, offsets_fit ht, offsets_fit hp, rfl⟩⟩

/-- The two tables of a Carter-Tracy aquifer are cut out of the columns in which the tables of all
aquifers stand end to end. -/
theorem gathers_carterTracy : carterTracy.Gathers := by
  intro as cols s h hs n a hn
  obtain ⟨ps, hps, -, -, rfl⟩ := columns_carterTracy_eq_ok_iff.mp h
  obtain ⟨hsp, hs⟩ := hs.append
  have htimes : (as.map (·.times))[n]? = some a.times := by
    rw [List.getElem?_map, hn, Option.map_some]
  have hpressures : (as.map (·.pressures))[n]? = some a.pressures := by
    rw [List.getElem?_map, hn, Option.map_some]
  simp only [carterTracy, bounds_eq hs htimes, bounds_eq hs.tail hpressures,
    row_carterTracyParameters hps hsp hn, reals_eq hs.tail.tail, reals_eq hs.tail.tail.tail,
    Except.ok_bind, cut_flatten htimes, cut_flatten hpressures]
  rfl

theorem named_carterTracy : carterTracy.Named (["id", "datum_depth", "permeability", "porosity",
    "total_compressibility", "inner_radius", "thickness", "influence_angle", "pvt_table",
    "influence_table", "initial_pressure", maskOf "initial_pressure"] ++ ["time_offsets",
    "pressure_offsets", "dimensionless_time", "dimensionless_pressure"]) := by
  intro as cols h
  obtain ⟨ps, hps, -, -, rfl⟩ := columns_carterTracy_eq_ok_iff.mp h
  rw [List.map_append, named_carterTracyParameters as ps hps]
  rfl

theorem spreads_constantFlux : constantFlux.Spreads ConstantFlux.IntegersFit := by
  refine (Spreads.map (.pair (spreads_int _) <| .pair (spreads_real _) <|
    .pair (spreads_real _) <| .pair (spreads_optional _) (spreads_optional _))).of_imp fun a h ↦ ?_
  exact ⟨h, trivial, trivial, trivial, trivial⟩

theorem gathers_constantFlux : constantFlux.Gathers :=
  Gathers.map (.pair (gathers_int _) <| .pair (gathers_real _) <| .pair (gathers_real _) <|
    .pair (gathers_optional _) (gathers_optional _)) fun _ ↦ rfl

theorem named_constantFlux : constantFlux.Named ["id", "flux", "salt_concentration",
    "temperature", maskOf "temperature", "datum_pressure", maskOf "datum_pressure"] :=
  Named.map (.pair (named_int _) <| .pair (named_real _) <| .pair (named_real _) <|
    .pair (named_optional _) (named_optional _))

theorem spreads_place : place.Spreads fun x ↦ x.1.IntegersFit ∧ IntegerFits x.2 := by
  refine (Spreads.map (.pair (spreads_int _) <| .pair (spreads_int _) <|
    .pair (spreads_int _) (spreads_int _))).of_imp fun x h ↦ ?_
  obtain ⟨⟨hi, hj, hk⟩, hn⟩ := h
  exact ⟨hi, hj, hk, hn⟩

theorem gathers_place : place.Gathers :=
  Gathers.map (.pair (gathers_int _) <| .pair (gathers_int _) <|
    .pair (gathers_int _) (gathers_int _)) fun _ ↦ rfl

theorem named_place : place.Named ["i", "j", "k", "global_index"] :=
  Named.map (.pair (named_int _) <| .pair (named_int _) <| .pair (named_int _) (named_int _))

theorem spreads_face : face.Spreads fun _ ↦ True :=
  (Spreads.refine (spreads_int _)).of_imp fun f _ ↦ Face.integerFits_code f

theorem gathers_face : face.Gathers :=
  Gathers.refine (gathers_int _) Face.ofCode_code

theorem named_face : face.Named ["face"] := Named.refine (named_int _)

theorem spreads_storageCell : storageCell.Spreads StorageCell.IntegersFit := by
  refine (Spreads.map (.pair (spreads_int _) <| .pair spreads_place <| .pair (spreads_real _) <|
    .pair (spreads_real _) <| .pair (spreads_real _) <| .pair (spreads_real _) <|
    .pair (spreads_real _) <| .pair (spreads_int _) <|
    .pair (spreads_int _) (spreads_optional _))).of_imp fun c h ↦ ?_
  obtain ⟨hid, hplace, hindex, hpvt, hsat⟩ := h
  exact ⟨hid, ⟨hplace, hindex⟩, trivial, trivial, trivial, trivial, trivial, hpvt, hsat, trivial⟩

theorem gathers_storageCell : storageCell.Gathers :=
  Gathers.map (.pair (gathers_int _) <| .pair gathers_place <| .pair (gathers_real _) <|
    .pair (gathers_real _) <| .pair (gathers_real _) <| .pair (gathers_real _) <|
    .pair (gathers_real _) <| .pair (gathers_int _) <|
    .pair (gathers_int _) (gathers_optional _)) fun _ ↦ rfl

theorem named_storageCell : storageCell.Named ["aquifer_id", "i", "j", "k", "global_index",
    "area", "length", "permeability", "porosity", "depth", "pvttable", "sattable",
    "init_pressure", maskOf "init_pressure"] :=
  Named.map (.pair (named_int _) <| .pair named_place <| .pair (named_real _) <|
    .pair (named_real _) <| .pair (named_real _) <| .pair (named_real _) <|
    .pair (named_real _) <| .pair (named_int _) <|
    .pair (named_int _) (named_optional _))

theorem spreads_coupling : coupling.Spreads Coupling.IntegersFit := by
  refine (Spreads.map (.pair (spreads_int _) <| .pair spreads_place <| .pair spreads_face <|
    .pair (spreads_real _) <| .pair (spreads_int _) <| .pair (spreads_flag _) <|
    .pair (spreads_real _) (spreads_real _))).of_imp fun c h ↦ ?_
  obtain ⟨hid, hplace, hindex, hoption⟩ := h
  exact ⟨hid, ⟨hplace, hindex⟩, trivial, trivial, hoption, trivial, trivial, trivial⟩

theorem gathers_coupling : coupling.Gathers :=
  Gathers.map (.pair (gathers_int _) <| .pair gathers_place <| .pair gathers_face <|
    .pair (gathers_real _) <| .pair (gathers_int _) <| .pair (gathers_flag _) <|
    .pair (gathers_real _) (gathers_real _)) fun _ ↦ rfl

theorem named_coupling : coupling.Named ["aquifer_id", "i", "j", "k", "global_index", "face",
    "trans_multi", "trans_option", "connect_active_cell", "ve_frac_relperm",
    "ve_frac_cappress"] :=
  Named.map (.pair (named_int _) <| .pair named_place <| .pair named_face <|
    .pair (named_real _) <| .pair (named_int _) <| .pair (named_flag _) <|
    .pair (named_real _) (named_real _))

theorem spreads_influxCell :
    influxCell.Spreads fun c ↦ IntegerFits c.aquifer ∧ IntegerFits c.index := by
  refine (Spreads.map (.pair (spreads_int _) <| .pair (spreads_int _) <|
    .pair (spreads_real _) spreads_face)).of_imp fun c h ↦ ?_
  obtain ⟨hid, hindex⟩ := h
  exact ⟨hid, hindex, trivial, trivial⟩

theorem gathers_influxCell : influxCell.Gathers :=
  Gathers.map (.pair (gathers_int _) <| .pair (gathers_int _) <|
    .pair (gathers_real _) gathers_face) fun _ ↦ rfl

theorem named_influxCell : influxCell.Named ["aquifer_id", "global_index", "influx_coeff",
    "face"] :=
  Named.map (.pair (named_int _) <| .pair (named_int _) <| .pair (named_real _) named_face)

end Table

end Aquifer
