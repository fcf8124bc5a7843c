import Aquifer.Proofs.Binary.RoundTrip

namespace Aquifer

namespace Codec

variable {α β : Type} {a : Codec α} {b : Codec β}

structure Stable (a : Codec α) (x : α) : Prop where
  writes : a.Writes x
  restores : a.Restores x

def Normalizes (a : Codec α) : Prop := ∀ o s x t, a.read o s = .ok x t → a.Stable x

theorem fits_ofWord_eight {o : ByteOrder} {bs : Bytes} (h : bs.length = 8) :
    Binary.fits 8 (Binary.ofWord o bs) = true := by
  have hfits := Binary.fits_ofWord o bs
  rwa [h] at hfits

theorem fits_of_read_int {o : ByteOrder} {s t : Source} {n : Int} (h : int.read o s = .ok n t) :
    Binary.fits 8 n = true := by
  obtain ⟨bs, u, -, h⟩ := EStateM.bind_eq_ok_iff.mp h
  split at h
  · rename_i hlength
    cases h
    exact fits_ofWord_eight hlength
  · exact nomatch h

theorem normalizes_int : int.Normalizes :=
  fun _ _ n _ h ↦ ⟨writes_int (fits_of_read_int h), restores_int n⟩

theorem normalizes_real : real.Normalizes := fun _ _ x _ _ ↦ ⟨writes_real x, restores_real x⟩

theorem normalizes_flag : flag.Normalizes := fun _ _ x _ _ ↦ ⟨writes_flag x, restores_flag x⟩

theorem eights_length (bs : Bytes) :
    8 * (eights bs).length ≤ bs.length ∧ ∀ w ∈ eights bs, w.length = 8 := by
  fun_induction eights bs with
  | case1 a b c d e f g h rest ih =>
    obtain ⟨hlength, hwords⟩ := ih
    simp only [List.length_cons, List.forall_mem_cons]
    exact ⟨by omega, rfl, hwords⟩
  | case2 => exact ⟨Nat.zero_le _, List.forall_mem_nil _⟩

/-- The words of a record that is read are as many as fit into a record. -/
theorem of_read_words {write : ByteOrder → α → Bytes} {read : ByteOrder → Bytes → α}
    {o : ByteOrder} {s t : Source} {xs : List α} (h : (words write read).read o s = .ok xs t) :
    8 * xs.length < 2 ^ 31 ∧ ∀ x ∈ xs, ∃ w : Bytes, w.length = 8 ∧ read o w = x := by
  obtain ⟨bs, u, hframe, h⟩ := EStateM.bind_eq_ok_iff.mp h
  obtain ⟨hlength, hwords⟩ := eights_length bs
  split at h
  · cases h
    refine ⟨?_, fun x hx ↦ ?_⟩
    · rw [List.length_map]
      exact Nat.lt_of_le_of_lt hlength (Binary.readFrame_length_lt hframe)
    · obtain ⟨w, hw, rfl⟩ := List.mem_map.mp hx
      exact ⟨w, hwords w hw, rfl⟩
  · exact nomatch h

theorem normalizes_reals : reals.Normalizes :=
  fun _ _ xs _ h ↦ ⟨writes_reals (of_read_words h).1, restores_reals xs⟩

theorem normalizes_ints : ints.Normalizes := by
  intro o s xs t h
  have hread : (words (Binary.word · 8) Binary.ofWord).read o s = .ok xs t := h
  obtain ⟨hlength, hwords⟩ := of_read_words hread
  refine ⟨writes_ints (fun n hn ↦ ?_) hlength, restores_ints xs⟩
  obtain ⟨w, hw, rfl⟩ := hwords n hn
  exact fits_ofWord_eight hw

theorem Normalizes.pair (ha : a.Normalizes) (hb : b.Normalizes) : (a.pair b).Normalizes := by
  intro o s x t h
  obtain ⟨y, u, hy, h⟩ := EStateM.bind_eq_ok_iff.mp h
  obtain ⟨z, v, hz, h⟩ := EStateM.bind_eq_ok_iff.mp h
  cases h
  exact ⟨.pair (ha o s y u hy).writes (hb o u z t hz).writes,
    .pair (ha o s y u hy).restores (hb o u z t hz).restores⟩

theorem Normalizes.map {form : α → β} {unform : β → α} (ha : a.Normalizes)
    (h : ∀ x, unform (form x) = x) : (a.map form unform).Normalizes := by
  intro o s y t hy
  obtain ⟨x, u, hx, hy⟩ := EStateM.bind_eq_ok_iff.mp hy
  cases hy
  obtain ⟨hwrites, hrestores⟩ := ha o s x t hx
  rw [← h x] at hwrites hrestores
  exact ⟨.map hwrites, .map hrestores (congrArg form (h x))⟩

theorem Normalizes.refine {form : Nat → α → Except Fault β} {unform : β → α} (ha : a.Normalizes)
    (h : ∀ n x y, form n x = .ok y → unform y = x ∧ ∀ m, form m x = .ok y) :
    (a.refine form unform).Normalizes := by
  intro o s y t hy
  obtain ⟨x, hx, hy⟩ := of_read_refine hy
  obtain ⟨hunform, hform⟩ := h _ x y hy
  obtain ⟨hwrites, hrestores⟩ := ha o s x t hx
  rw [← hunform] at hform hwrites hrestores
  exact ⟨.refine hwrites, .refine hrestores hform⟩

theorem Normalizes.optional (ha : a.Normalizes) : (optional a).Normalizes := by
  intro o s x t h
  obtain ⟨rfl, -⟩ | ⟨y, u, rfl, -, hy⟩ := of_read_optional h
  · exact ⟨.optional nofun, .optional nofun⟩
  · have hstable := ha o u y t hy
    refine ⟨.optional fun z hz ↦ ?_, .optional fun z hz ↦ ?_⟩
    · cases hz
      exact hstable.writes
    · cases hz
      exact hstable.restores

theorem stable_of_readMany (ha : a.Normalizes) {o : ByteOrder} {n : Nat} {s t : Source}
    {xs : List α} (h : Binary.readMany (a.read o) n s = .ok xs t) :
    xs.length = n ∧ ∀ x ∈ xs, a.Stable x := by
  induction n generalizing s xs with
  | zero =>
    cases h
    exact ⟨rfl, List.forall_mem_nil _⟩
  | succ n ih =>
    obtain ⟨y, u, hy, h⟩ := EStateM.bind_eq_ok_iff.mp h
    obtain ⟨ys, v, hys, h⟩ := EStateM.bind_eq_ok_iff.mp h
    cases h
    obtain ⟨hlength, hstable⟩ := ih hys
    exact ⟨congrArg (· + 1) hlength, List.forall_mem_cons.mpr ⟨ha o s y u hy, hstable⟩⟩

theorem of_read_counted (ha : a.Normalizes) {o : ByteOrder} {s t : Source} {xs : List α}
    (h : (counted a).read o s = .ok xs t) : CountFits xs ∧ ∀ x ∈ xs, a.Stable x := by
  obtain ⟨n, u, hn, h⟩ := EStateM.bind_eq_ok_iff.mp h
  obtain ⟨hlength, hstable⟩ := stable_of_readMany ha h
  have hfits := integerFits_iff.mp (fits_of_read_int hn)
  refine ⟨countFits_iff.mpr ?_, hstable⟩
  rw [hlength]
  omega

/-- A list may lose entries when it is brought into another form, if it then stays as it is. -/
theorem Normalizes.counted_map {form : List α → β} {unform : β → List α} (ha : a.Normalizes)
    (hsub : ∀ xs, (unform (form xs)).Subperm xs) (hform : ∀ xs, form (unform (form xs)) = form xs) :
    ((counted a).map form unform).Normalizes := by
  intro o s y t h
  obtain ⟨xs, u, hxs, h⟩ := EStateM.bind_eq_ok_iff.mp h
  cases h
  obtain ⟨hcount, hstable⟩ := of_read_counted ha hxs
  have hstable : ∀ x ∈ unform (form xs), a.Stable x :=
    fun x hx ↦ hstable x ((hsub xs).subset hx)
  have hcount : CountFits (unform (form xs)) :=
    countFits_iff.mpr (Nat.lt_of_le_of_lt (hsub xs).length_le (countFits_iff.mp hcount))
  exact ⟨.map (.counted hcount fun x hx ↦ (hstable x hx).writes),
    .map (.counted fun x hx ↦ (hstable x hx).restores) (hform xs)⟩

theorem Normalizes.counted (ha : a.Normalizes) : (counted a).Normalizes := by
  intro o s xs t h
  obtain ⟨hcount, hstable⟩ := of_read_counted ha h
  exact ⟨.counted hcount fun x hx ↦ (hstable x hx).writes,
    .counted fun x hx ↦ (hstable x hx).restores⟩

theorem normalizes_fetkovich : fetkovich.Normalizes :=
  .map (.pair normalizes_int <| .pair normalizes_real <| .pair normalizes_real <|
    .pair normalizes_real <| .pair normalizes_real <| .pair normalizes_int <|
    .pair normalizes_real.optional <| .pair normalizes_real normalizes_real.optional) fun _ ↦ rfl

theorem normalizes_carterTracy : carterTracy.Normalizes :=
  .map (.pair normalizes_int <| .pair normalizes_real <| .pair normalizes_real <|
    .pair normalizes_real <| .pair normalizes_real <| .pair normalizes_real <|
    .pair normalizes_real <| .pair normalizes_real <| .pair normalizes_int <|
    .pair normalizes_int <| .pair normalizes_real.optional <|
    .pair normalizes_reals normalizes_reals) fun _ ↦ rfl

theorem normalizes_constantFlux : constantFlux.Normalizes :=
  .map (.pair normalizes_int <| .pair normalizes_real <| .pair normalizes_real <|
    .pair normalizes_real.optional normalizes_real.optional) fun _ ↦ rfl

theorem normalizes_cellNumbers : cellNumbers.Normalizes := by
  refine normalizes_ints.refine fun _ xs y h ↦ ?_
  split at h
  · cases h
    exact ⟨rfl, fun _ ↦ rfl⟩
  · exact nomatch h

theorem normalizes_storageCell : storageCell.Normalizes :=
  .map (.pair normalizes_int <| .pair normalizes_cellNumbers <| .pair normalizes_real <|
    .pair normalizes_real <| .pair normalizes_real <| .pair normalizes_real <|
    .pair normalizes_real <| .pair normalizes_int <|
    .pair normalizes_int normalizes_real.optional) fun _ ↦ rfl

theorem normalizes_couplingNumbers : couplingNumbers.Normalizes := by
  refine normalizes_ints.refine fun _ xs y h ↦ ?_
  split at h
  · obtain ⟨f, hf, h⟩ := Except.bind_eq_ok_iff.mp h
    cases h
    refine ⟨?_, fun _ ↦ ?_⟩
    · rw [← Face.code_of_ofCode hf]
    · simp only [hf]
      rfl
  · exact nomatch h

theorem normalizes_coupling : coupling.Normalizes :=
  .map (.pair normalizes_int <| .pair normalizes_couplingNumbers <| .pair normalizes_real <|
    .pair normalizes_flag <| .pair normalizes_real normalizes_real) fun _ ↦ rfl

theorem normalizes_numericalAquifer : numericalAquifer.Normalizes :=
  .map (.pair normalizes_int <|
    .pair normalizes_storageCell.counted normalizes_coupling.counted) fun _ ↦ rfl

theorem normalizes_collection {α : Type} [AnalyticKind α] {a : Codec α} (ha : a.Normalizes) :
    (collection a).Normalizes :=
  .counted_map ha Collection.toList_ofList_subperm fun as ↦
    Collection.ofList_toList (Collection.ownKeys_ofList as)

theorem normalizes_registry : registry.Normalizes :=
  .counted_map normalizes_numericalAquifer (Keyed.values_ofList_subperm _) fun _ ↦
    Registry.ofList_toList Keyed.key_of_mem_ofList

/-- Cells that come from columns of equal length give these columns again. -/
theorem columns_of_influxRows {id : Int} {ns fs : List Int} {xs : List Double}
    {cs : List InfluxCell} (hf : ns.length = fs.length) (hx : fs.length = xs.length)
    (h : influxRows id ns fs xs = .ok cs) :
    cs.map (·.index) = ns ∧ cs.map (·.face.code) = fs ∧ cs.map (·.coefficient) = xs := by
  induction ns generalizing fs xs cs with
  | nil =>
    cases List.eq_nil_of_length_eq_zero hf.symm
    cases List.eq_nil_of_length_eq_zero hx.symm
    cases h
    exact ⟨rfl, rfl, rfl⟩
  | cons n ns ih =>
    match fs, xs, hf, hx, h with
    | f :: fs, x :: xs, hf, hx, h =>
      obtain ⟨face, hface, h⟩ := Except.bind_eq_ok_iff.mp h
      obtain ⟨ds, hds, h⟩ := Except.bind_eq_ok_iff.mp h
      cases h
      obtain ⟨hindex, hcode, hcoefficient⟩ :=
        ih (Nat.succ.inj hf) (Nat.succ.inj hx) hds
      simp only [List.map_cons, hindex, hcode, hcoefficient, Face.code_of_ofCode hface, and_self]

theorem normalizes_influxColumns : influxColumns.Normalizes := by
  refine Normalizes.refine (.pair normalizes_int <| .pair normalizes_ints <|
    .pair normalizes_ints normalizes_reals) fun n x y h ↦ ?_
  obtain ⟨id, ns, fs, xs⟩ := x
  dsimp only at h ⊢
  split at h
  · rename_i hlength
    obtain ⟨cs, hcs, h⟩ := Except.bind_eq_ok_iff.mp h
    cases h
    obtain ⟨hindex, hcode, hcoefficient⟩ := columns_of_influxRows hlength.1 hlength.2 hcs
    refine ⟨by simp only [hindex, hcode, hcoefficient], fun _ ↦ ?_⟩
    rw [if_pos hlength, hcs]
    rfl
  · exact nomatch h

theorem normalizes_influx : influx.Normalizes :=
  .counted_map normalizes_influxColumns Keyed.entries_ofList_subperm fun es ↦
    congrArg Influx.mk (Keyed.ofList_entries (Keyed.ofList es))

theorem normalizes_configuration : configuration.Normalizes :=
  .map (.pair (normalizes_collection normalizes_fetkovich) <|
    .pair (normalizes_collection normalizes_carterTracy) <|
    .pair (normalizes_collection normalizes_constantFlux) <|
    .pair normalizes_registry normalizes_influx) fun _ ↦ rfl

theorem normalizes_solutionKind : solutionKind.Normalizes :=
  normalizes_int.refine fun _ _ _ h ↦ ⟨SolutionKind.code_of_ofCode h, fun _ ↦ h⟩

theorem normalizes_solutionValues : solutionValues.Normalizes := by
  refine normalizes_reals.refine fun _ xs y h ↦ ?_
  split at h
  · cases h
    exact ⟨rfl, fun _ ↦ rfl⟩
  · exact nomatch h

theorem normalizes_fetkovichConstants : fetkovichConstants.Normalizes := by
  refine normalizes_reals.refine fun _ xs y h ↦ ?_
  split at h
  · cases h
    exact ⟨rfl, fun _ ↦ rfl⟩
  · exact nomatch h

theorem normalizes_solution : solution.Normalizes :=
  .map (.pair normalizes_int <| .pair normalizes_solutionKind <|
    .pair normalizes_solutionValues normalizes_fetkovichConstants.optional) fun _ ↦ rfl

theorem normalizes_solutions : solutions.Normalizes :=
  .counted_map (.pair normalizes_int normalizes_solution) Keyed.entries_ofList_subperm fun es ↦
    Keyed.ofList_entries (Keyed.ofList es)

end Codec

namespace Binary

theorem read_of_decode {α : Type} {k : Content} {c : Codec α} {bs : Bytes} {x : α}
    (h : decode k c bs = .ok x) : ∃ o s t, c.read o s = .ok x t := by
  obtain ⟨o, -, t, hread⟩ := decode_eq_ok_iff.mp h
  obtain ⟨_, s, -, hread⟩ := EStateM.bind_eq_ok_iff.mp hread
  exact ⟨o, s, t, orMalformed_eq_ok_iff.mp hread⟩

/-- A value that was decoded can be encoded in either order of bytes, and decoding that gives the
same value. -/
theorem encode_of_decode {α : Type} {k : Content} {c : Codec α} {bs : Bytes} {x : α}
    (hc : c.Normalizes) (h : decode k c bs = .ok x) (o : ByteOrder) :
    ∃ cs, encode k c o x = .ok cs ∧ decode k c cs = .ok x := by
  obtain ⟨_, _, _, hread⟩ := read_of_decode h
  obtain ⟨hwrites, hrestores⟩ := hc _ _ _ _ hread
  obtain ⟨hd, hhd⟩ := head_ok o k
  obtain ⟨body, hbody⟩ := hwrites o
  have hencode : encode k c o x = .ok (hd ++ body) :=
    encode_eq_ok_iff.mpr ⟨hd, hhd, body, hbody, rfl⟩
  obtain ⟨-, hdecode⟩ := decode_append_of_restores hrestores hencode []
  rw [List.append_nil] at hdecode
  exact ⟨_, hencode, hdecode⟩

/-- Decoding brings every input that it accepts, also one that no encoder gives, into a form that
stays as it is: the configuration or the solutions can be encoded in either order of bytes, and
decoding that gives the same again. -/
theorem decode_normalizes (bs : Bytes) (o : ByteOrder) :
    (∀ c, Configuration.decode bs = .ok c →
      ∃ cs, c.encode o = .ok cs ∧ Configuration.decode cs = .ok c) ∧
    ∀ s, Solutions.decode bs = .ok s → ∃ cs, s.encode o = .ok cs ∧ Solutions.decode cs = .ok s :=
  ⟨fun _ h ↦ encode_of_decode Codec.normalizes_configuration h o,
    fun _ h ↦ encode_of_decode Codec.normalizes_solutions h o⟩

/-- Of two aquifers with one number the later one is kept, a negative number of aquifers stands for
none, and bytes behind the file are left alone. -/
theorem decode_normalizes_repeated :
    let a : Fetkovich := ⟨7, ⟨1⟩, ⟨2⟩, ⟨3⟩, ⟨4⟩, 1, none, ⟨5⟩, some ⟨6⟩⟩
    let b : Fetkovich := { a with pvtTable := 2 }
    let file := encode .configuration (Codec.pair (.counted .fetkovich) <| .pair .int <|
      .pair .int <| .pair .int .int) .big ([a, b], -3, 0, -1, 0)
    ∃ bs c, file = .ok bs ∧ Configuration.decode (bs ++ [0x41]) = .ok c ∧
      c.fetkovich.toList = [b] ∧
      ∃ cs, c.encode .little = .ok cs ∧ Configuration.decode cs = .ok c := by
  intro a b file
  have hfile : (do
      let bs ← file
      (Configuration.decode (bs ++ [0x41])).map fun c : Configuration ↦ c.fetkovich.toList) =
        .ok [b] := by
    decide +kernel
  obtain ⟨bs, hbs, hdecode⟩ := Except.bind_eq_ok_iff.mp hfile
  obtain ⟨c, hc, hlist⟩ := Except.map_eq_ok_iff.mp hdecode
  exact ⟨bs, c, hbs, hc, hlist, (decode_normalizes (bs ++ [0x41]) .little).1 c hc⟩

end Binary

end Aquifer
