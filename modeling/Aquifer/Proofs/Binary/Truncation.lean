import Aquifer.Proofs.Binary.Exact
import Aquifer.Proofs.Binary.RoundTrip

namespace Aquifer

namespace Codec

variable {α β : Type} {a : Codec α} {b : Codec β}

def Accepts (a : Codec α) (x : α) : Prop :=
  ∀ o bs, a.write o x = .ok bs → ∀ rest n, ∃ y m, a.read o ⟨bs ++ rest, n⟩ = .ok y ⟨rest, m⟩

theorem Restores.accepts {x : α} (h : a.Restores x) : a.Accepts x := by
  intro o bs hbs rest n
  obtain ⟨k, hk⟩ := h o bs hbs
  exact ⟨x, n + k, hk rest n⟩

theorem Accepts.pair {x : α × β} (ha : a.Accepts x.1) (hb : b.Accepts x.2) :
    (a.pair b).Accepts x := by
  intro o bs h rest n
  simp only [Codec.pair, Except.bind_eq_ok_iff] at h
  obtain ⟨us, hus, vs, hvs, huv⟩ := h
  cases Except.ok.inj huv
  obtain ⟨y, m, hy⟩ := ha o us hus (vs ++ rest) n
  obtain ⟨z, l, hz⟩ := hb o vs hvs rest m
  rw [List.append_assoc]
  exact ⟨(y, z), l, by simp only [Codec.pair, EStateM.bind_of_ok hy, EStateM.bind_of_ok hz]; rfl⟩

theorem Accepts.map {form : α → β} {unform : β → α} {y : β} (h : a.Accepts (unform y)) :
    (a.map form unform).Accepts y := by
  intro o bs hbs rest n
  obtain ⟨x, m, hx⟩ := h o bs hbs rest n
  exact ⟨form x, m, by simp only [Codec.map, EStateM.bind_of_ok hx]; rfl⟩

theorem Accepts.refine {form : Nat → α → Except Fault β} {unform : β → α} {y : β}
    (h : a.Restores (unform y)) (hy : ∀ n, ∃ z, form n (unform y) = .ok z) :
    (a.refine form unform).Accepts y := by
  intro o bs hbs rest n
  obtain ⟨k, hk⟩ := h o bs hbs
  obtain ⟨z, hz⟩ := hy (n + k)
  exact ⟨z, n + k, read_refine (hk rest n) hz⟩

theorem readMany_of_accepts {xs : List α} (h : ∀ x ∈ xs, a.Accepts x) {o : ByteOrder} {bs : Bytes}
    (hbs : a.writeList o xs = .ok bs) (rest : Bytes) (n : Nat) :
    ∃ ys m, Binary.readMany (a.read o) xs.length ⟨bs ++ rest, n⟩ = .ok ys ⟨rest, m⟩ := by
  induction xs generalizing bs n with
  | nil =>
    cases Except.ok.inj hbs
    exact ⟨[], n, rfl⟩
  | cons x xs ih =>
    rw [List.forall_mem_cons] at h
    simp only [writeList, Except.bind_eq_ok_iff] at hbs
    obtain ⟨us, hus, vs, hvs, huv⟩ := hbs
    cases Except.ok.inj huv
    obtain ⟨y, m, hy⟩ := h.1 o us hus (vs ++ rest) n
    obtain ⟨ys, l, hys⟩ := ih h.2 hvs m
    refine ⟨y :: ys, l, ?_⟩
    rw [List.append_assoc, List.length_cons, Binary.readMany, EStateM.bind_of_ok hy,
      EStateM.bind_of_ok hys]
    rfl

theorem Accepts.counted {xs : List α} (h : ∀ x ∈ xs, a.Accepts x) : (counted a).Accepts xs := by
  intro o bs hbs rest n
  simp only [Codec.counted, Except.bind_eq_ok_iff] at hbs
  obtain ⟨us, hus, vs, hvs, huv⟩ := hbs
  cases Except.ok.inj huv
  obtain ⟨k, hk⟩ := restores_int _ o us hus
  obtain ⟨ys, m, hys⟩ := readMany_of_accepts h hvs rest (n + k)
  refine ⟨ys, m, ?_⟩
  rw [List.append_assoc]
  simp only [Codec.counted, EStateM.bind_of_ok (hk _ n), Int.toNat_natCast, hys]

theorem accepts_influxColumns (e : Int × List InfluxCell) : influxColumns.Accepts e := by
  refine .refine (.pair (restores_int _) <| .pair (restores_ints _) <|
    .pair (restores_ints _) (restores_reals _)) fun n ↦
    ⟨(e.1, e.2.map fun c ↦ { c with aquifer := e.1 }), ?_⟩
  simp only [List.length_map, and_self, if_true, influxRows_columns]
  rfl

/-- Every configuration that can be written is read as some configuration, also if it does not keep
everything under its own number. -/
theorem accepts_configuration (c : Configuration) : configuration.Accepts c :=
  .map (.pair (.map (Restores.counted fun a _ ↦ restores_fetkovich a).accepts) <|
    .pair (.map (Restores.counted fun a _ ↦ restores_carterTracy a).accepts) <|
    .pair (.map (Restores.counted fun a _ ↦ restores_constantFlux a).accepts) <|
    .pair (.map (Restores.counted fun a _ ↦ restores_numericalAquifer a).accepts)
      (.map (.counted fun e _ ↦ accepts_influxColumns e)))

end Codec

namespace Binary

open Read

theorem exact_readHead (o : ByteOrder) (k : Content) : (readHead o k).Exact Fault.IsMalformed := by
  have hmark : (readMark o).Exact Fault.BreaksOff :=
    .bind (Codec.exact_payload o) fun _ ↦ .bind (Codec.exact_int o) fun _ ↦
      .guard fun _ ↦ Codec.exact_text o
  exact .bind (exact_orMalformed hmark _) fun found ↦ .ite (exact_malformed _) (exact_pure ())

theorem startsIn_eq_false {bs : Bytes} (h : bs.length < 8) (o : ByteOrder) :
    startsIn o bs = false := by
  rw [startsIn, beq_eq_false_iff_ne]
  intro heq
  have hlength := congrArg List.length heq
  have hmagic : magic.length = 4 := rfl
  rw [List.length_take, List.length_append, word_length, hmagic] at hlength
  omega

theorem orderOf_of_prefix {p bs : Bytes} (hp : p <+: bs) (h : 8 ≤ p.length) :
    orderOf p = orderOf bs := by
  have htake : p.take 8 = bs.take 8 := by
    rw [List.prefix_iff_eq_take.mp hp, List.take_take, Nat.min_eq_left h]
  have hstarts : ∀ o, startsIn o p = startsIn o bs := fun o ↦ by rw [startsIn, startsIn, htake]
  rw [orderOf, orderOf, hstarts, hstarts]

section Prefix

variable {α : Type} {k : Content} {c : Codec α} {o : ByteOrder} {x : α} {bs p : Bytes}

theorem read_of_accepts (hx : c.Accepts x) (h : encode k c o x = .ok bs) :
    orderOf bs = .ok o ∧
      ∃ y m, (readHead o k >>= fun _ ↦ orMalformed k.truncated (c.read o)) ⟨bs, 0⟩ =
        .ok y ⟨[], m⟩ := by
  obtain ⟨hd, hhd, body, hbody, rfl⟩ := encode_eq_ok_iff.mp h
  obtain ⟨y, m, hy⟩ := hx o body hbody [] (0 + 3)
  rw [List.append_nil] at hy
  refine ⟨orderOf_head hhd body, y, m, ?_⟩
  rw [EStateM.bind_of_ok (readHead_head hhd body 0)]
  exact orMalformed_eq_ok_iff.mpr hy

theorem exists_decode_of_accepts (hx : c.Accepts x) (h : encode k c o x = .ok bs) :
    ∃ y, decode k c bs = .ok y := by
  obtain ⟨horder, y, m, hread⟩ := read_of_accepts hx h
  exact ⟨y, decode_eq_ok_iff.mpr ⟨o, horder, _, hread⟩⟩

/-- A part of an encoded file is reported as broken data, wherever the file was cut. -/
theorem decode_of_prefix (hexact : c.Exact) (hx : c.Accepts x) (h : encode k c o x = .ok bs)
    (hp : p <+: bs) (hne : p ≠ bs) : ∃ e, decode k c p = .error e ∧ e.IsMalformed := by
  rcases Nat.lt_or_ge p.length 8 with hshort | hlong
  · refine ⟨.malformed .badMagic (some 0), ?_, _, _, rfl⟩
    simp only [decode, orderOf, startsIn_eq_false hshort]
    rfl
  · obtain ⟨horder, y, m, hread⟩ := read_of_accepts hx h
    -- The reading of the file takes all of its bytes, so every part of them is too little.
    obtain ⟨us, hus, -, hcut⟩ := Exact.bind (exact_readHead o k)
      (fun _ ↦ exact_orMalformed (hexact o) k.truncated) _ _ _ hread
    rw [List.append_nil] at hus
    obtain ⟨e, t, he, hmalformed⟩ := hcut p (hus ▸ hp) (hus ▸ hne)
    rw [← orderOf_of_prefix hp hlong] at horder
    exact ⟨e, decode_eq_error_iff.mpr (Or.inr ⟨o, horder, t, he⟩), hmalformed⟩

end Prefix

/-- A file of a configuration or of solutions that ends too early is rejected, wherever it ends: in
its head, in or between its records. The fault is always that the file is broken. The whole file is
accepted. -/
theorem rejects_proper_prefixes (o : ByteOrder) {p bs : Bytes} (hp : p <+: bs) (hne : p ≠ bs) :
    (∀ c : Configuration, c.encode o = .ok bs →
      (∃ cause record, Configuration.decode p = .error (.malformed cause record)) ∧
        ∃ d, Configuration.decode bs = .ok d) ∧
    ∀ s : Solutions, s.encode o = .ok bs →
      (∃ cause record, Solutions.decode p = .error (.malformed cause record)) ∧
        ∃ t, Solutions.decode bs = .ok t := by
  constructor
  · intro c hc
    have haccepts := Codec.accepts_configuration c
    obtain ⟨_, he, cause, record, rfl⟩ :=
      decode_of_prefix Codec.exact_configuration haccepts hc hp hne
    exact ⟨⟨cause, record, he⟩, exists_decode_of_accepts haccepts hc⟩
  · intro s hs
    have haccepts := (Codec.restores_solutions s).accepts
    obtain ⟨_, he, cause, record, rfl⟩ :=
      decode_of_prefix Codec.exact_solutions haccepts hs hp hne
    exact ⟨⟨cause, record, he⟩, exists_decode_of_accepts haccepts hs⟩

theorem rejects_proper_prefixes_small : ∃ bs, Configuration.small.encode .big = .ok bs ∧
    bs.take 100 ≠ bs ∧
    (∃ cause record, Configuration.decode (bs.take 100) = .error (.malformed cause record)) ∧
    ∃ d, Configuration.decode bs = .ok d := by
  have hencode : ∃ bs, Configuration.small.encode .big = .ok bs ∧ bs.take 100 ≠ bs :=
    ⟨_, rfl, by decide⟩
  obtain ⟨bs, hbs, hne⟩ := hencode
  exact ⟨bs, hbs, hne,
    (rejects_proper_prefixes .big (List.take_prefix 100 bs) hne).1 Configuration.small hbs⟩

end Binary

end Aquifer
