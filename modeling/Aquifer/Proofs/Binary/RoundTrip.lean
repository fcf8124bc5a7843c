import Aquifer.Binary.File
import Aquifer.Proofs.Binary.Layout

namespace Aquifer

namespace Binary

theorem head_ok (o : ByteOrder) (k : Content) : ∃ hd, head o k = .ok hd := by
  cases o <;> cases k <;> exact ⟨_, rfl⟩

theorem readMark_head {o : ByteOrder} {k : Content} {hd : Bytes} (h : head o k = .ok hd)
    (rest : Bytes) (n : Nat) : readMark o ⟨hd ++ rest, n⟩ = .ok k.name ⟨rest, n + 3⟩ := by
  simp only [head, Except.bind_eq_ok_iff] at h
  obtain ⟨mark, hmark, version, hversion, name, hname, hhd⟩ := h
  cases Except.ok.inj hhd
  have hsupported : ¬(formatVersion < formatVersion ∨ formatVersion < 1) := by decide
  rw [List.append_assoc, List.append_assoc, readMark,
    EStateM.bind_of_ok (Codec.read_payload_append hmark _ n),
    EStateM.bind_of_ok (Codec.read_int_append hversion _ _)]
  simp only [hsupported, if_false]
  exact Codec.read_text_append hname rest _

theorem readHead_head {o : ByteOrder} {k : Content} {hd : Bytes} (h : head o k = .ok hd)
    (rest : Bytes) (n : Nat) : readHead o k ⟨hd ++ rest, n⟩ = .ok () ⟨rest, n + 3⟩ := by
  rw [readHead, EStateM.bind_of_ok (orMalformed_eq_ok_iff.mpr (readMark_head h rest n))]
  simp only [ne_eq, not_true_eq_false, if_false]
  rfl

theorem orderOf_head {o : ByteOrder} {k : Content} {hd : Bytes} (h : head o k = .ok hd)
    (rest : Bytes) : orderOf (hd ++ rest) = .ok o := by
  cases o <;> cases k <;> cases Except.ok.inj h <;> rfl

theorem encode_eq_ok_iff {α : Type} {k : Content} {c : Codec α} {o : ByteOrder} {x : α}
    {bs : Bytes} : encode k c o x = .ok bs ↔
      ∃ hd, head o k = .ok hd ∧ ∃ body, c.write o x = .ok body ∧ hd ++ body = bs := by
  simp only [encode, Except.bind_eq_ok_iff]
  constructor
  · intro h
    obtain ⟨hd, hhd, body, hbody, h⟩ := h
    exact ⟨hd, hhd, body, hbody, Except.ok.inj h⟩
  · intro h
    obtain ⟨hd, hhd, body, hbody, h⟩ := h
    exact ⟨hd, hhd, body, hbody, congrArg Except.ok h⟩

section Decode

variable {α : Type} {k : Content} {c : Codec α} {bs : Bytes}

theorem decode_eq_ok_iff {x : α} : decode k c bs = .ok x ↔ ∃ o, orderOf bs = .ok o ∧
    ∃ t, (readHead o k >>= fun _ ↦ orMalformed k.truncated (c.read o)) ⟨bs, 0⟩ = .ok x t := by
  simp only [decode, Except.bind_eq_ok_iff, readAll_eq_ok_iff]

theorem decode_eq_error_iff {e : Fault} : decode k c bs = .error e ↔ orderOf bs = .error e ∨
    ∃ o, orderOf bs = .ok o ∧
      ∃ t, (readHead o k >>= fun _ ↦ orMalformed k.truncated (c.read o)) ⟨bs, 0⟩ = .error e t := by
  simp only [decode, Except.bind_eq_error_iff, readAll_eq_error_iff]

end Decode

/-- Decoding a file gives back the value that was encoded, whatever follows the file. -/
theorem decode_append_of_restores {α : Type} {k : Content} {c : Codec α} {o : ByteOrder} {x : α}
    {bs : Bytes} (hc : c.Restores x) (h : encode k c o x = .ok bs) (rest : Bytes) :
    orderOf (bs ++ rest) = .ok o ∧ decode k c (bs ++ rest) = .ok x := by
  obtain ⟨hd, hhd, body, hbody, rfl⟩ := encode_eq_ok_iff.mp h
  obtain ⟨l, hl⟩ := hc o body hbody
  have horder := orderOf_head hhd (body ++ rest)
  rw [List.append_assoc]
  refine ⟨horder, decode_eq_ok_iff.mpr ⟨o, horder, ⟨rest, 0 + 3 + l⟩, ?_⟩⟩
  rw [EStateM.bind_of_ok (readHead_head hhd (body ++ rest) 0)]
  exact orMalformed_eq_ok_iff.mpr (hl rest (0 + 3))

end Binary

/-- The number of entries of each list is an integer too, written before the list, and fits into a
word of eight bytes. -/
structure Configuration.CountsFit (c : Configuration) : Prop where
  fetkovich : CountFits c.fetkovich.toList
  carterTracy : CountFits c.carterTracy.toList
  constantFlux : CountFits c.constantFlux.toList
  numerical : CountFits c.numerical.toList
  cells : ∀ a ∈ c.numerical.toList, CountFits a.cells
  couplings : ∀ a ∈ c.numerical.toList, CountFits a.couplings
  influx : CountFits c.influx.cells.entries

/-- The numbers that are stored in one record, of eight bytes each, fill fewer than `2 ^ 31`
bytes. -/
structure Configuration.ArraysFit (c : Configuration) : Prop where
  times : ∀ a ∈ c.carterTracy.toList, 8 * a.times.length < 2 ^ 31
  pressures : ∀ a ∈ c.carterTracy.toList, 8 * a.pressures.length < 2 ^ 31
  influx : ∀ e ∈ c.influx.cells.entries, 8 * e.2.length < 2 ^ 31

namespace Codec

theorem writes_configuration {c : Configuration} (hi : c.IntegersFit) (hn : c.CountsFit)
    (ha : c.ArraysFit) : configuration.Writes c := by
  refine Writes.map (.pair ?fetkovich <| .pair ?carterTracy <| .pair ?constantFlux <|
    .pair ?numerical ?influx)
  case fetkovich =>
    exact writes_collection hn.fetkovich fun a h ↦ writes_fetkovich (hi.fetkovich a h)
  case carterTracy =>
    exact writes_collection hn.carterTracy fun a h ↦
      writes_carterTracy (hi.carterTracy a h) (ha.times a h) (ha.pressures a h)
  case constantFlux =>
    exact writes_collection hn.constantFlux fun a h ↦ writes_constantFlux (hi.constantFlux a h)
  case numerical =>
    exact writes_registry hn.numerical fun a h ↦
      writes_numericalAquifer (hi.numerical a h) (hn.cells a h) (hn.couplings a h)
  case influx =>
    exact writes_influx hn.influx fun e h ↦ writes_influxColumns (hi.influx e h) (ha.influx e h)

theorem restores_configuration {c : Configuration} (h : c.OwnKeys) : configuration.Restores c :=
  Restores.map (.pair (restores_collection restores_fetkovich h.fetkovich) <|
    .pair (restores_collection restores_carterTracy h.carterTracy) <|
    .pair (restores_collection restores_constantFlux h.constantFlux) <|
    .pair (restores_registry h.numerical) (restores_influx h.influx)) rfl

end Codec

/-- A configuration whose integers, counts and arrays fit into records can be encoded in either
order of bytes. Decoding what was encoded, whatever bytes follow it, finds the order from the bytes
and gives the same configuration, which is encoded as the same bytes again. -/
theorem Configuration.decode_encode_append {c : Configuration} (hc : c.OwnKeys) (o : ByteOrder) :
    (c.IntegersFit → c.CountsFit → c.ArraysFit → ∃ bs, c.encode o = .ok bs) ∧
    ∀ bs, c.encode o = .ok bs → ∀ rest : Bytes,
      Binary.orderOf (bs ++ rest) = .ok o ∧
      Configuration.decode (bs ++ rest) = .ok c ∧
      (Configuration.decode (bs ++ rest) >>= fun d ↦ d.encode o) = .ok bs := by
  constructor
  · intro hi hn ha
    obtain ⟨hd, hhd⟩ := Binary.head_ok o .configuration
    obtain ⟨body, hbody⟩ := Codec.writes_configuration hi hn ha o
    exact ⟨hd ++ body, Binary.encode_eq_ok_iff.mpr ⟨hd, hhd, body, hbody, rfl⟩⟩
  · intro bs hbs rest
    obtain ⟨horder, hdecode⟩ :=
      Binary.decode_append_of_restores (Codec.restores_configuration hc) hbs rest
    exact ⟨horder, hdecode, Except.bind_eq_ok_iff.mpr ⟨c, hdecode, hbs⟩⟩

theorem Configuration.decode_encode_append_small :
    Configuration.small.OwnKeys ∧ ∃ bs, Configuration.small.encode .big = .ok bs ∧
      Configuration.decode (bs ++ [0x41, 0x51]) = .ok Configuration.small := by
  have hkeys := Configuration.small_ownKeys
  obtain ⟨hsucceeds, hrestores⟩ := Configuration.decode_encode_append hkeys .big
  have hcounts : Configuration.small.CountsFit := by
    constructor <;> simp [Configuration.small, CountFits, integerFits_iff, Collection.toList,
      Registry.toList, Keyed.values]
  have harrays : Configuration.small.ArraysFit := by
    constructor <;> simp [Configuration.small, Collection.toList, Keyed.values]
  obtain ⟨bs, hbs⟩ := hsucceeds Configuration.small_integersFit hcounts harrays
  exact ⟨hkeys, bs, hbs, (hrestores bs hbs [0x41, 0x51]).2.1⟩

end Aquifer
