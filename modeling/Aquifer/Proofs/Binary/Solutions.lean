import Aquifer.Proofs.Binary.RoundTrip

namespace Aquifer

/-- The integers that are stored for solutions fit into words of eight bytes: the numbers that they
are kept under, those of the aquifers, which may be different, and how many solutions there are. -/
structure Solutions.IntegersFit (s : Solutions) : Prop where
  keys : ∀ e ∈ s.entries, IntegerFits e.1
  aquifers : ∀ e ∈ s.entries, IntegerFits e.2.aquifer
  count : CountFits s.entries

namespace Codec

theorem writes_solutionKind (k : SolutionKind) : solutionKind.Writes k := by
  have hcode : Binary.fits 8 k.code = true := by cases k <;> decide
  exact Writes.refine (writes_int hcode)

theorem writes_fetkovichConstants (c : FetkovichConstants) : fetkovichConstants.Writes c := by
  have hlength : 8 * [c.initialVolume, c.productivity, c.timeConstant].length < 2 ^ 31 := by simp
  exact Writes.refine (writes_reals hlength)

theorem writes_solutionValues (x : Double × Double × Double × Double × Double) :
    solutionValues.Writes x := by
  obtain ⟨p, q, v, p₀, d⟩ := x
  have hlength : 8 * [p, q, v, p₀, d].length < 2 ^ 31 := by simp
  exact Writes.refine (writes_reals hlength)

theorem writes_solution {s : Solution} (h : IntegerFits s.aquifer) : solution.Writes s :=
  Writes.map (.pair (writes_int h) <| .pair (writes_solutionKind _) <|
    .pair (writes_solutionValues _) (.optional fun c _ ↦ writes_fetkovichConstants c))

theorem writes_solutions {s : Solutions} (h : s.IntegersFit) : solutions.Writes s := by
  refine Writes.map (.counted h.count ?_)
  intro e he
  exact .pair (writes_int (h.keys e he)) (writes_solution (h.aquifers e he))

end Codec

namespace Binary

theorem exists_encode_of_writes {α : Type} {c : Codec α} {x : α} (h : c.Writes x) (k : Content)
    (o : ByteOrder) : ∃ bs, encode k c o x = .ok bs := by
  obtain ⟨hd, hhd⟩ := head_ok o k
  obtain ⟨body, hbody⟩ := h o
  exact ⟨hd ++ body, encode_eq_ok_iff.mpr ⟨hd, hhd, body, hbody, rfl⟩⟩

theorem Content.name_injective {k l : Content} (h : k.name = l.name) : k = l := by
  cases k <;> cases l <;> first | rfl | exact absurd h (by decide)

theorem readHead_head_of_ne {o : ByteOrder} {k l : Content} (hkl : k ≠ l) {hd : Bytes}
    (h : head o k = .ok hd) (rest : Bytes) (n : Nat) :
    readHead o l ⟨hd ++ rest, n⟩ =
      .error (.malformed (.wrongKind l.name k.name) (some (n + 3))) ⟨rest, n + 3⟩ := by
  have hname : k.name ≠ l.name := fun hname ↦ hkl (Content.name_injective hname)
  rw [readHead, EStateM.bind_of_ok (orMalformed_eq_ok_iff.mpr (readMark_head h rest n))]
  simp only [ne_eq, hname, not_false_eq_true, if_true]
  rfl

/-- A file of one kind is no file of another kind, whatever it holds and whatever follows it. The
fault names both kinds and stands behind the three records of the head. -/
theorem decode_append_of_kind_ne {α β : Type} {k l : Content} (hkl : k ≠ l) {c : Codec α}
    {o : ByteOrder} {x : α} {bs : Bytes} (h : encode k c o x = .ok bs) (d : Codec β)
    (rest : Bytes) : decode l d (bs ++ rest) =
      .error (.malformed (.wrongKind l.name k.name) (some 3)) := by
  obtain ⟨hd, hhd, body, -, rfl⟩ := encode_eq_ok_iff.mp h
  have hhead := readHead_head_of_ne hkl hhd (body ++ rest) 0
  rw [List.append_assoc]
  exact decode_eq_error_iff.mpr (Or.inr ⟨o, orderOf_head hhd _, _, EStateM.bind_of_error hhead⟩)

end Binary

/-- Solutions whose integers fit can be encoded in either order of bytes. Decoding what was encoded,
whatever bytes follow it, finds the order from the bytes and gives the same solutions in the same
order. Files of solutions are rejected as configurations, and files of configurations as
solutions. -/
theorem Solutions.decode_encode_own_kind (o : ByteOrder) :
    (∀ s : Solutions, s.IntegersFit → ∃ bs, s.encode o = .ok bs) ∧
    (∀ (s : Solutions) (bs : Bytes), s.encode o = .ok bs → ∀ rest : Bytes,
      Binary.orderOf (bs ++ rest) = .ok o ∧
      Solutions.decode (bs ++ rest) = .ok s ∧
      Configuration.decode (bs ++ rest) =
        .error (.malformed (.wrongKind "config" "data") (some 3))) ∧
    ∀ (c : Configuration) (bs : Bytes), c.encode o = .ok bs → ∀ rest : Bytes,
      Solutions.decode (bs ++ rest) =
        .error (.malformed (.wrongKind "data" "config") (some 3)) := by
  have hne : Binary.Content.solutions ≠ .configuration := by decide
  refine ⟨?_, ?_, ?_⟩
  · intro s hs
    exact Binary.exists_encode_of_writes (Codec.writes_solutions hs) .solutions o
  · intro s bs hbs rest
    obtain ⟨horder, hdecode⟩ :=
      Binary.decode_append_of_restores (Codec.restores_solutions s) hbs rest
    have hother := Binary.decode_append_of_kind_ne hne hbs Codec.configuration rest
    exact ⟨horder, hdecode, hother⟩
  · intro c bs hbs rest
    exact Binary.decode_append_of_kind_ne hne.symm hbs Codec.solutions rest

def Solutions.small : Solutions :=
  ⟨[(4, { aquifer := 9, kind := .numerical, pressure := .nan, datumDepth := ⟨1⟩ }),
    (-1, { aquifer := 9, fluxRate := ⟨2⟩, fetkovich := some ⟨⟨3⟩, ⟨4⟩, .nan⟩ })], by decide⟩

theorem Solutions.small_integersFit : small.IntegersFit := by
  constructor <;> simp [small, CountFits, integerFits_iff]

theorem Solutions.decode_encode_own_kind_small :
    Solutions.small.IntegersFit ∧
    (∃ bs, Solutions.small.encode .big = .ok bs ∧
      Solutions.decode (bs ++ [0x41, 0x51]) = .ok Solutions.small ∧
      Configuration.decode (bs ++ [0x41, 0x51]) =
        .error (.malformed (.wrongKind "config" "data") (some 3))) ∧
    ∃ bs, Configuration.small.encode .big = .ok bs ∧
      Solutions.decode bs = .error (.malformed (.wrongKind "data" "config") (some 3)) := by
  obtain ⟨hsucceeds, hrestores, hrejects⟩ := Solutions.decode_encode_own_kind .big
  obtain ⟨bs, hbs⟩ := hsucceeds Solutions.small Solutions.small_integersFit
  have hconfiguration : ∃ cs, Configuration.small.encode .big = .ok cs := ⟨_, rfl⟩
  obtain ⟨cs, hcs⟩ := hconfiguration
  obtain ⟨-, hdecode, hother⟩ := hrestores Solutions.small bs hbs [0x41, 0x51]
  have hrejected := hrejects Configuration.small cs hcs []
  rw [List.append_nil] at hrejected
  exact ⟨Solutions.small_integersFit, ⟨bs, hbs, hdecode, hother⟩, cs, hcs, hrejected⟩

end Aquifer
