import Aquifer.Proofs.Binary.Faults
import Aquifer.Proofs.Binary.Normal
import Aquifer.Proofs.Binary.Reader
import Aquifer.Proofs.Binary.Solutions
import Mathlib.Algebra.Order.BigOperators.Group.List
import Mathlib.Algebra.Order.Ring.Nat

namespace Aquifer

namespace Binary

theorem length_payloads {o : ByteOrder} {ps : List Bytes} {bs : Bytes}
    (h : Codec.payload.writeList o ps = .ok bs) :
    bs.length = (ps.map fun p ↦ p.length + 8).sum := by
  induction ps generalizing bs with
  | nil =>
    cases h
    rfl
  | cons p ps ih =>
    simp only [Codec.writeList, Codec.payload, Except.bind_eq_ok_iff] at h
    obtain ⟨us, hus, vs, hvs, huv⟩ := h
    cases Except.ok.inj huv
    obtain ⟨-, rfl⟩ := frame_eq_ok_iff.mp hus
    rw [List.map_cons, List.sum_cons, ← ih hvs]
    simp only [List.length_append, word_length]
    omega

theorem Passes.length {o : ByteOrder} {ps : List Bytes} {s t : Source} (h : Passes o ps s t) :
    s.rest.length = (ps.map fun p ↦ p.length + 8).sum + t.rest.length := by
  obtain ⟨-, bs, hbs, hrest⟩ := h
  rw [hrest, List.length_append, length_payloads hbs]

theorem Passes.advances {o : ByteOrder} {ps : List Bytes} {s t : Source} (h : Passes o ps s t) :
    s.Advances ps.length t where
  suffix := by
    obtain ⟨-, bs, -, hrest⟩ := h
    exact ⟨bs, hrest.symm⟩
  records := h.1
  length := by
    rw [h.length, List.sum_map_add, List.map_const', List.sum_replicate_nat]
    omega

end Binary

/-- The records that are read, also by a reading that fails, take eight bytes each. -/
theorem Read.Blames.length_records {α : Type} {k : Binary.Content} {o : ByteOrder} {x : Read α}
    (hx : x.Blames k o) (s : Source) :
    8 * (x.stop s).records ≤ 8 * s.records + s.rest.length := by
  obtain ⟨ps, t, hps, ht⟩ : ∃ ps t, Binary.Passes o ps s t ∧ t.records = (x.stop s).records := by
    rw [Read.stop]
    split
    · rename_i a t hok
      obtain ⟨ps, hps⟩ := hx.passes hok
      exact ⟨ps, t, hps, rfl⟩
    · rename_i e t herror
      obtain ⟨ps, rest, hps, -⟩ := hx.explains herror
      exact ⟨ps, _, hps, rfl⟩
  have hrecords := hps.advances.records
  have hlength := hps.advances.length
  omega

namespace Binary

/-- A loop whose turns take eight bytes each can be cut off behind as many turns as the bytes that
are left allow, and one more to fail: a larger number of turns gives the same. -/
theorem readMany_min {α : Type} {x : Read α}
    (hx : ∀ {s a t}, x s = .ok a t → 8 + t.rest.length ≤ s.rest.length) (n : Nat) (s : Source) :
    readMany x n s = readMany x (min n (s.rest.length / 8 + 1)) s := by
  suffices h : ∀ m, s.rest.length / 8 < m → readMany x n s = readMany x (min n m) s from
    h _ (Nat.lt_succ_self _)
  induction n generalizing s with
  | zero => exact fun m _ ↦ by rw [Nat.zero_min]
  | succ n ih =>
    intro m hm
    obtain ⟨m, rfl⟩ := Nat.exists_eq_add_one_of_ne_zero (Nat.ne_zero_of_lt hm)
    rw [Nat.add_min_add_right, readMany, readMany]
    cases h : x s with
    | ok a t =>
      -- the turn took eight bytes, so the bound with one turn less holds behind it
      have htail := ih t m (by have := hx h; omega)
      rw [EStateM.bind_of_ok h, EStateM.bind_of_ok h]
      show EStateM.bind _ _ t = EStateM.bind _ _ t
      simp only [EStateM.bind, htail]
    | error e t => rw [EStateM.bind_of_error h, EStateM.bind_of_error h]

end Binary

def Configuration.parts (c : Configuration) : Nat :=
  c.fetkovich.size + c.carterTracy.size + c.constantFlux.size + c.numerical.size +
    c.numerical.cells.length + c.numerical.couplings.length + c.influx.size

namespace Codec

variable {α β : Type} {a : Codec α} {b : Codec β} {v w : α → Nat}

/-- A value is read from at least eight bytes for each unit of its weight. -/
def Weighs (a : Codec α) (w : α → Nat) : Prop :=
  ∀ o s x t, a.read o s = .ok x t → 8 * w x + t.rest.length ≤ s.rest.length

theorem Weighs.mono (ha : a.Weighs v) (h : ∀ x, w x ≤ v x) : a.Weighs w := by
  intro o s x t hx
  have := ha o s x t hx
  have := h x
  omega

theorem Single.weighs (ha : a.Single) : a.Weighs fun _ ↦ 1 := by
  intro o s x t h
  -- the reading stops behind one record, and its counter says that this record was found
  have hstop := Read.stop_of_ok h
  have hadvances := Binary.advances_readFrame o s
  have hcount := hadvances.records
  rw [← (ha o).stop_eq, hstop] at hadvances hcount
  rw [(ha o).records h] at hcount
  rw [← Nat.add_left_cancel hcount] at hadvances
  exact hadvances.length

theorem Weighs.pair {w : β → Nat} (ha : a.Weighs v) (hb : b.Weighs w) :
    (a.pair b).Weighs fun x ↦ v x.1 + w x.2 := by
  intro o s x t h
  obtain ⟨y, u, hy, h⟩ := EStateM.bind_eq_ok_iff.mp h
  obtain ⟨z, _, hz, h⟩ := EStateM.bind_eq_ok_iff.mp h
  cases h
  have := ha o s y u hy
  have := hb o u z t hz
  dsimp only
  omega

theorem Weighs.map {form : α → β} {unform : β → α} {w : β → Nat} (ha : a.Weighs (w ∘ form)) :
    (a.map form unform).Weighs w := by
  intro o s y t h
  obtain ⟨x, _, hx, h⟩ := EStateM.bind_eq_ok_iff.mp h
  cases h
  exact ha o s x t hx

theorem Weighs.refine {form : Nat → α → Except Fault β} {unform : β → α} {w : β → Nat}
    (ha : a.Weighs v) (hform : ∀ {n x y}, form n x = .ok y → w y ≤ v x) :
    (a.refine form unform).Weighs w := by
  intro o s y t h
  obtain ⟨x, hx, hy⟩ := of_read_refine h
  have := ha o s x t hx
  have := hform hy
  omega

/-- An optional value weighs no less than the flag before it. -/
theorem Weighs.optional (ha : a.Weighs fun _ ↦ 1) : (optional a).Weighs fun _ ↦ 1 := by
  intro o s x t h
  obtain ⟨rfl, hflag⟩ | ⟨y, u, rfl, hflag, hy⟩ := of_read_optional h
  · exact single_flag.weighs o s false t hflag
  · have := single_flag.weighs o s true u hflag
    have := ha o u y t hy
    dsimp only at *
    omega

theorem weighs_readMany (ha : a.Weighs w) {o : ByteOrder} {n : Nat} {s t : Source} {xs : List α}
    (h : Binary.readMany (a.read o) n s = .ok xs t) :
    8 * (xs.map w).sum + t.rest.length ≤ s.rest.length := by
  induction n generalizing s xs with
  | zero =>
    cases h
    exact Nat.le_of_eq (Nat.zero_add _)
  | succ n ih =>
    obtain ⟨x, u, hx, h⟩ := EStateM.bind_eq_ok_iff.mp h
    obtain ⟨ys, _, hys, h⟩ := EStateM.bind_eq_ok_iff.mp h
    cases h
    have := ha o s x u hx
    have := ih hys
    rw [List.map_cons, List.sum_cons]
    omega

theorem Weighs.counted (ha : a.Weighs w) : (counted a).Weighs fun xs ↦ (xs.map w).sum + 1 := by
  intro o s xs t h
  obtain ⟨n, u, hn, h⟩ := EStateM.bind_eq_ok_iff.mp h
  have := single_int.weighs o s n u hn
  have := weighs_readMany ha h
  dsimp only at *
  omega

theorem Weighs.counted_length (ha : a.Weighs fun _ ↦ 1) : (Codec.counted a).Weighs List.length :=
  ha.counted.mono fun xs ↦ by simp

theorem compositional_weighs : Compositional fun _ a ↦ a.Weighs fun _ ↦ 1 where
  int := single_int.weighs
  real := single_real.weighs
  reals := single_reals.weighs
  pair ha hb := (ha.pair hb).mono fun _ ↦ by decide
  map ha := Weighs.map (w := fun _ ↦ 1) ha
  optional ha := ha.optional
  counted ha := ha.counted.mono fun _ ↦ Nat.le_add_left 1 _

theorem weighs_fetkovich : fetkovich.Weighs fun _ ↦ 1 := compositional_weighs.fetkovich

theorem weighs_carterTracy : carterTracy.Weighs fun _ ↦ 1 := compositional_weighs.carterTracy

theorem weighs_constantFlux : constantFlux.Weighs fun _ ↦ 1 := compositional_weighs.constantFlux

theorem weighs_storageCell : storageCell.Weighs fun _ ↦ 1 :=
  compositional_weighs.storageCell single_ints.refine.weighs

theorem weighs_coupling : coupling.Weighs fun _ ↦ 1 :=
  compositional_weighs.coupling single_ints.refine.weighs

theorem weighs_solution : solution.Weighs fun _ ↦ 1 :=
  compositional_weighs.solution single_int.refine.weighs single_reals.refine.weighs
    single_reals.refine.weighs

theorem weighs_numericalAquifer :
    numericalAquifer.Weighs fun a ↦ 1 + (a.cells.length + a.couplings.length) :=
  .map <| single_int.weighs.pair <| weighs_storageCell.counted_length.pair
    weighs_coupling.counted_length

theorem weighs_ints : ints.Weighs List.length := by
  intro o s xs t h
  obtain ⟨_, hps, p, rfl, hp, -⟩ := spells_ints o s xs t h
  rw [hps.length, ← hp]
  exact Nat.add_le_add_right (Nat.le_add_right _ 8) _

theorem weighs_influxColumns : influxColumns.Weighs fun e ↦ 1 + e.2.length := by
  have hcolumns := weighs_ints.pair (single_ints.weighs.pair single_reals.weighs)
  refine (single_int.weighs.pair hcolumns).refine ?_
  intro records x y h
  obtain ⟨id, ns, fs, xs⟩ := x
  dsimp only at h
  split at h
  · rename_i heven
    obtain ⟨cs, hcs, h⟩ := Except.bind_eq_ok_iff.mp h
    cases h
    obtain ⟨hindex, -, -⟩ := columns_of_influxRows heven.1 heven.2 hcs
    rw [← hindex, List.length_map]
    exact Nat.add_le_add_left (Nat.le_add_right cs.length 2) 1
  · exact nomatch h

theorem weighs_collection {α : Type} [AnalyticKind α] {a : Codec α} (ha : a.Weighs fun _ ↦ 1) :
    (collection a).Weighs Collection.size := by
  refine .map <| ha.counted_length.mono fun as ↦ ?_
  have hle := (Collection.toList_ofList_subperm as).length_le
  rwa [Collection.toList, Keyed.values, List.length_map] at hle

/-- What is left of the entries of a map weighs no more than all of them. -/
theorem sum_map_le_of_subperm {xs ys : List α} (h : xs.Subperm ys) (w : α → Nat) :
    (xs.map w).sum ≤ (ys.map w).sum := by
  obtain ⟨zs, hperm, hsub⟩ := h
  rw [← (hperm.map w).sum_eq]
  exact (hsub.map w).sum_le_sum fun _ _ ↦ Nat.zero_le _

theorem weighs_registry :
    registry.Weighs fun r ↦ r.size + (r.cells.length + r.couplings.length) := by
  refine .map <| weighs_numericalAquifer.counted.mono fun as ↦ ?_
  have hle := sum_map_le_of_subperm (Keyed.values_ofList_subperm NumericalAquifer.id as)
    fun a ↦ 1 + (a.cells.length + a.couplings.length)
  rw [List.sum_map_add, List.sum_map_add, List.map_const', List.sum_replicate_nat, Nat.mul_one,
    ← List.length_flatMap, ← List.length_flatMap, Keyed.values, List.length_map] at hle
  exact Nat.le_succ_of_le hle

theorem weighs_influx : influx.Weighs Influx.size := by
  refine .map <| weighs_influxColumns.counted.mono fun es ↦ ?_
  have hle := sum_map_le_of_subperm (Keyed.entries_ofList_subperm es) fun e ↦ 1 + e.2.length
  rw [List.sum_map_add] at hle
  have hsize : (Influx.mk (Keyed.ofList es)).size =
      ((Keyed.ofList es).entries.map (·.2.length)).sum := by
    simp only [Influx.size, Influx.toList, Keyed.values, List.length_flatten, List.map_map]
    rfl
  dsimp only [Function.comp_apply]
  omega

theorem weighs_configuration : configuration.Weighs Configuration.parts := by
  have hparts := (weighs_collection weighs_fetkovich).pair <|
    (weighs_collection weighs_carterTracy).pair <| (weighs_collection weighs_constantFlux).pair <|
    weighs_registry.pair weighs_influx
  refine .map <| hparts.mono fun x ↦ ?_
  obtain ⟨f, c, q, n, x⟩ := x
  dsimp only [Function.comp_apply, Configuration.parts]
  omega

theorem weighs_solutions : solutions.Weighs Keyed.size := by
  refine .map <| (single_int.weighs.pair weighs_solution).counted.mono fun es ↦ ?_
  have hle := (Keyed.entries_ofList_subperm es).length_le
  rw [List.map_const', List.sum_replicate_nat]
  show (Keyed.ofList es).entries.length ≤ _
  omega

/-- The number of turns of a loop over such values matters only as far as the bytes that are left
allow turns. -/
def Saturates (a : Codec α) : Prop := ∀ o n s,
  Binary.readMany (a.read o) n s = Binary.readMany (a.read o) (min n (s.rest.length / 8 + 1)) s

theorem Weighs.saturates (ha : a.Weighs fun _ ↦ 1) : a.Saturates :=
  fun o ↦ Binary.readMany_min fun h ↦ ha o _ _ _ h

end Codec

namespace Binary

variable {α : Type} {k : Content} {c : Codec α} {bs : Bytes}

def reading (k : Content) (c : Codec α) (o : ByteOrder) : Read α := do
  readHead o k
  orMalformed k.truncated (c.read o)

def recordsRead (k : Content) (c : Codec α) (bs : Bytes) : Nat :=
  match orderOf bs with
  | .ok o => ((reading k c o).stop ⟨bs, 0⟩).records
  | .error _ => 0

theorem recordsRead_le (hc : c.Blames k) (bs : Bytes) : recordsRead k c bs ≤ bs.length / 8 := by
  rw [recordsRead]
  split
  · rename_i o ho
    have hreading : (reading k c o).Blames k o :=
      (blames_readHead o k).bind fun _ ↦ (hc o).orMalformed k.truncated
    have hlength := hreading.length_records ⟨bs, 0⟩
    dsimp only at hlength
    omega
  · exact Nat.zero_le _

theorem weight_le_of_decode {w : α → Nat} {x : α} (hc : c.Weighs w) (h : decode k c bs = .ok x) :
    w x ≤ bs.length / 8 := by
  obtain ⟨o, -, t, h⟩ := decode_eq_ok_iff.mp h
  obtain ⟨⟨⟩, u, hhead, h⟩ := EStateM.bind_eq_ok_iff.mp h
  obtain ⟨ps, hps⟩ := (blames_readHead o k).passes hhead
  have := hps.advances.length
  have := hc o u x t (orMalformed_eq_ok_iff.mp h)
  dsimp only at *
  omega

/-- Decoding reads at most one record for eight bytes, whether it succeeds or fails. No loop depends
on the number of turns that the data ask for beyond what the bytes allow, and what is decoded has at
most one part for eight bytes. -/
theorem decode_ends (bs : Bytes) :
    (recordsRead .configuration Codec.configuration bs ≤ bs.length / 8 ∧
      recordsRead .solutions Codec.solutions bs ≤ bs.length / 8) ∧
    (Codec.fetkovich.Saturates ∧ Codec.carterTracy.Saturates ∧ Codec.constantFlux.Saturates ∧
      Codec.numericalAquifer.Saturates ∧ Codec.storageCell.Saturates ∧ Codec.coupling.Saturates ∧
      Codec.influxColumns.Saturates ∧ (Codec.int.pair Codec.solution).Saturates) ∧
    (∀ c, Configuration.decode bs = .ok c → c.parts ≤ bs.length / 8) ∧
    ∀ s, Solutions.decode bs = .ok s → s.size ≤ bs.length / 8 := by
  refine ⟨⟨?_, ?_⟩, ⟨?_, ?_, ?_, ?_, ?_, ?_, ?_, ?_⟩, ?_, ?_⟩
  · exact recordsRead_le Codec.blames_configuration bs
  · exact recordsRead_le Codec.blames_solutions bs
  · exact Codec.weighs_fetkovich.saturates
  · exact Codec.weighs_carterTracy.saturates
  · exact Codec.weighs_constantFlux.saturates
  · exact (Codec.weighs_numericalAquifer.mono fun _ ↦ Nat.le_add_right 1 _).saturates
  · exact Codec.weighs_storageCell.saturates
  · exact Codec.weighs_coupling.saturates
  · exact (Codec.weighs_influxColumns.mono fun _ ↦ Nat.le_add_right 1 _).saturates
  · exact (Codec.compositional_weighs.pair Codec.single_int.weighs Codec.weighs_solution).saturates
  · exact fun c h ↦ weight_le_of_decode Codec.weighs_configuration h
  · exact fun s h ↦ weight_le_of_decode Codec.weighs_solutions h

def declaringMany : Bytes :=
  [4, 0, 0, 0] ++ magic ++ [4, 0, 0, 0] ++ [8, 0, 0, 0, 1, 0, 0, 0, 0, 0, 0, 0, 8, 0, 0, 0] ++
    [6, 0, 0, 0] ++ Codec.textBytes "config" ++ [6, 0, 0, 0] ++
    [8, 0, 0, 0, 255, 255, 255, 255, 255, 255, 255, 127, 8, 0, 0, 0]

theorem decode_ends_declaringMany :
    (Configuration.decode declaringMany = .error (.malformed .truncatedConfiguration (some 4)) ∧
      recordsRead .configuration Codec.configuration declaringMany = 4 ∧
      recordsRead .configuration Codec.configuration declaringMany ≤ declaringMany.length / 8) ∧
    (∃ bs, Configuration.decode bs = .ok Configuration.small ∧
      Configuration.small.parts ≤ bs.length / 8) ∧
    ∃ bs, Solutions.decode bs = .ok Solutions.small ∧ Solutions.small.size ≤ bs.length / 8 := by
  refine ⟨⟨by rfl, by rfl, (decode_ends declaringMany).1.1⟩, ?_, ?_⟩
  · obtain ⟨bs, hbs⟩ : ∃ bs, Configuration.small.encode .big = .ok bs := ⟨_, rfl⟩
    obtain ⟨-, hdecode⟩ :=
      decode_append_of_restores (Codec.restores_configuration Configuration.small_ownKeys) hbs []
    exact ⟨_, hdecode, (decode_ends _).2.2.1 _ hdecode⟩
  · obtain ⟨bs, hbs⟩ : ∃ bs, Solutions.small.encode .big = .ok bs := ⟨_, rfl⟩
    obtain ⟨-, hdecode⟩ :=
      decode_append_of_restores (Codec.restores_solutions Solutions.small) hbs []
    exact ⟨_, hdecode, (decode_ends _).2.2.2 _ hdecode⟩

end Binary

end Aquifer
