import Aquifer.Proofs.Binary.Blame
import Aquifer.Proofs.Binary.RoundTrip

namespace Aquifer

namespace Binary

theorem blames_readHead (o : ByteOrder) (k : Content) : (readHead o k).Blames k o := by
  have hmark : (readMark o).Blames k o :=
    .bind (Codec.blames_payload o) fun _ ↦ .bind (Codec.blames_int o) fun _ ↦
      .guard fun _ ↦ Codec.blames_text o
  exact .bind (hmark.orMalformed _) fun found ↦ .ite (Read.blames_malformed _) (Read.blames_pure ())

theorem orMalformed_ne_endOfStream {α : Type} {cause : Malformation} {x : Read α} {s t : Source} :
    orMalformed cause x s ≠ .error .endOfStream t := by
  intro h
  rw [orMalformed] at h
  split at h
  · cases h
  · rename_i hx
    exact hx t h

theorem readHead_ne_endOfStream {o : ByteOrder} {k : Content} {s t : Source} :
    readHead o k s ≠ .error .endOfStream t := by
  intro h
  obtain h | ⟨found, u, -, h⟩ := EStateM.bind_eq_error_iff.mp h
  · exact orMalformed_ne_endOfStream h
  · split at h
    · exact nomatch h
    · exact nomatch h

/-- A file is rejected with a fault that the whole records at its start explain: either the bytes
behind them are reported as broken data, or the last of them do not suit. -/
def Rejects (k : Content) (bs : Bytes) (e : Fault) : Prop :=
  ∃ o ps fs rest, Codec.payload.writeList o ps = .ok fs ∧ bs = fs ++ rest ∧
    ((∃ cause, e = .malformed cause (some ps.length)) ∨
      orderOf bs = .ok o ∧ ∃ qs, qs <:+ ps ∧ Unsuits k o qs e)

theorem decode_rejects {α : Type} {k : Content} {c : Codec α} (hc : c.Blames k) (bs : Bytes) :
    (∃ x, decode k c bs = .ok x) ∨ ∃ e, decode k c bs = .error e ∧ Rejects k bs e := by
  cases hdecode : decode k c bs with
  | ok x => exact Or.inl ⟨x, rfl⟩
  | error e =>
    refine Or.inr ⟨e, rfl, ?_⟩
    obtain horder | ⟨o, horder, t, hread⟩ := decode_eq_error_iff.mp hdecode
    · have he : e = .malformed .badMagic (some 0) := by
        rw [orderOf] at horder
        split_ifs at horder
        exact (Except.error.inj horder).symm
      exact ⟨.little, [], [], bs, rfl, rfl, Or.inl ⟨.badMagic, he⟩⟩
    · have hblames := (blames_readHead o k).bind fun _ ↦ (hc o).orMalformed k.truncated
      obtain ⟨ps, rest, ⟨hrecords, fs, hfs, hbs⟩, he⟩ := hblames.explains hread
      refine ⟨o, ps, fs, rest, hfs, hbs, ?_⟩
      rw [Nat.zero_add] at hrecords
      obtain rfl | ⟨cause, rfl⟩ | hp := he
      · obtain h | ⟨_, u, -, h⟩ := EStateM.bind_eq_error_iff.mp hread
        · exact absurd h readHead_ne_endOfStream
        · exact absurd h orMalformed_ne_endOfStream
      · exact Or.inl ⟨cause, by rw [← hrecords]⟩
      · exact Or.inr ⟨horder, hp⟩

/-- A record behind the head from which a number cannot be read, where a number comes first. -/
theorem decode_of_bad_number {α : Type} {k : Content} {c : Codec α} {o : ByteOrder}
    {hd p fr : Bytes} (hc : ∀ {s e t}, Codec.int.read o s = .error e t → c.read o s = .error e t)
    (hhd : head o k = .ok hd) (hfr : frame o p = .ok fr) (hp : p.length ≠ 8) (rest : Bytes) :
    decode k c (hd ++ (fr ++ rest)) = .error .recordWidth := by
  have hint : Codec.int.read o ⟨fr ++ rest, 0 + 3⟩ = .error .recordWidth ⟨rest, 0 + 3 + 1⟩ := by
    simp only [Codec.int, EStateM.bind_of_ok (readFrame_append hfr rest _), hp, if_false]
    rfl
  have hread : (readHead o k >>= fun _ ↦ orMalformed k.truncated (c.read o))
      ⟨hd ++ (fr ++ rest), 0⟩ = .error .recordWidth ⟨rest, 0 + 3 + 1⟩ := by
    rw [EStateM.bind_of_ok (readHead_head hhd _ 0), orMalformed, hc hint]
  exact decode_eq_error_iff.mpr (Or.inr ⟨o, orderOf_head hhd _, _, hread⟩)

theorem read_configuration_error {o : ByteOrder} {s t : Source} {e : Fault}
    (h : Codec.int.read o s = .error e t) : Codec.configuration.read o s = .error e t :=
  EStateM.bind_of_error (EStateM.bind_of_error (EStateM.bind_of_error (EStateM.bind_of_error h)))

theorem read_solutions_error {o : ByteOrder} {s t : Source} {e : Fault}
    (h : Codec.int.read o s = .error e t) : Codec.solutions.read o s = .error e t :=
  EStateM.bind_of_error (EStateM.bind_of_error h)

/-- Decoding any bytes gives a configuration or solutions, or a fault that the whole records at the
start of the bytes explain. So not every file that is no file of its kind is reported as broken: the
fault of a record that does not suit goes through. Whatever comes behind the head of a file, if it
is framed and does not have eight bytes then it is such a record. -/
theorem decode_faults (bs : Bytes) :
    ((∃ c, Configuration.decode bs = .ok c) ∨
      ∃ e, Configuration.decode bs = .error e ∧ Rejects .configuration bs e) ∧
    ((∃ s, Solutions.decode bs = .ok s) ∨
      ∃ e, Solutions.decode bs = .error e ∧ Rejects .solutions bs e) ∧
    ∀ o hd p fr, frame o p = .ok fr → p.length ≠ 8 → hd ++ fr <+: bs →
      (head o .configuration = .ok hd → Configuration.decode bs = .error .recordWidth) ∧
      (head o .solutions = .ok hd → Solutions.decode bs = .error .recordWidth) := by
  refine ⟨decode_rejects Codec.blames_configuration bs, decode_rejects Codec.blames_solutions bs,
    ?_⟩
  rintro o hd p fr hfr hp ⟨rest, rfl⟩
  rw [List.append_assoc]
  exact ⟨fun hhd ↦ decode_of_bad_number read_configuration_error hhd hfr hp rest,
    fun hhd ↦ decode_of_bad_number read_solutions_error hhd hfr hp rest⟩

theorem decode_faults_bad_count : ∃ hd, head .big .solutions = .ok hd ∧
    frame .big [0, 0, 0, 0] = .ok [0, 0, 0, 4, 0, 0, 0, 0, 0, 0, 0, 4] ∧
    Solutions.decode (hd ++ [0, 0, 0, 4, 0, 0, 0, 0, 0, 0, 0, 4]) = .error .recordWidth := by
  obtain ⟨hd, hhd⟩ := head_ok .big .solutions
  have hframe : frame .big [0, 0, 0, 0] = .ok [0, 0, 0, 4, 0, 0, 0, 0, 0, 0, 0, 4] := rfl
  obtain ⟨-, -, hbad⟩ := decode_faults (hd ++ [0, 0, 0, 4, 0, 0, 0, 0, 0, 0, 0, 4])
  exact ⟨hd, hhd, hframe,
    (hbad .big hd [0, 0, 0, 0] _ hframe (by decide) (List.prefix_refl _)).2 hhd⟩

/-- The head of a file of each kind, and a record of four bytes where a count is due: the bytes are
neither decoded nor reported as broken data. -/
theorem decode_not_malformed :
    Configuration.decode [4, 0, 0, 0, 0x41, 0x51, 0x43, 0x46, 4, 0, 0, 0, 8, 0, 0, 0, 1, 0, 0, 0,
      0, 0, 0, 0, 8, 0, 0, 0, 6, 0, 0, 0, 0x63, 0x6f, 0x6e, 0x66, 0x69, 0x67, 6, 0, 0, 0, 4, 0, 0,
      0, 0, 0, 0, 0, 4, 0, 0, 0] = .error .recordWidth ∧
    Solutions.decode [4, 0, 0, 0, 0x41, 0x51, 0x43, 0x46, 4, 0, 0, 0, 8, 0, 0, 0, 1, 0, 0, 0, 0, 0,
      0, 0, 8, 0, 0, 0, 4, 0, 0, 0, 0x64, 0x61, 0x74, 0x61, 4, 0, 0, 0, 4, 0, 0, 0, 0, 0, 0, 0, 4,
      0, 0, 0] = .error .recordWidth := by
  have hframe : frame .little [0, 0, 0, 0] = .ok [4, 0, 0, 0, 0, 0, 0, 0, 4, 0, 0, 0] := rfl
  have hwidth : ([0, 0, 0, 0] : Bytes).length ≠ 8 := by decide
  constructor
  · have hhead : head .little .configuration = .ok [4, 0, 0, 0, 0x41, 0x51, 0x43, 0x46, 4, 0, 0, 0,
        8, 0, 0, 0, 1, 0, 0, 0, 0, 0, 0, 0, 8, 0, 0, 0, 6, 0, 0, 0, 0x63, 0x6f, 0x6e, 0x66, 0x69,
        0x67, 6, 0, 0, 0] := rfl
    exact decode_of_bad_number read_configuration_error hhead hframe hwidth []
  · have hhead : head .little .solutions = .ok [4, 0, 0, 0, 0x41, 0x51, 0x43, 0x46, 4, 0, 0, 0, 8,
        0, 0, 0, 1, 0, 0, 0, 0, 0, 0, 0, 8, 0, 0, 0, 4, 0, 0, 0, 0x64, 0x61, 0x74, 0x61, 4, 0, 0,
        0] := rfl
    exact decode_of_bad_number read_solutions_error hhead hframe hwidth []

end Binary

end Aquifer
