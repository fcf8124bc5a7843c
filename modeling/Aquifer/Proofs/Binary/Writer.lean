import Aquifer.Proofs.Binary.Reader
import Aquifer.Proofs.Storable
import Mathlib.Algebra.Ring.Nat

namespace Aquifer

namespace Write

variable {a b : Except Fault Bytes} {o : ByteOrder}

def append (a : Except Fault Bytes) : Write Unit := fun s ↦
  match a with
  | .ok bs => .ok () (s ++ bs)
  | .error e => .error e s

theorem append_eq_ok_iff {s t : Bytes} :
    append a s = .ok () t ↔ ∃ bs, a = .ok bs ∧ t = s ++ bs := by
  cases a with
  | ok bs => simp [append, eq_comm]
  | error e => simp [append]

theorem append_eq_error_iff {s t : Bytes} {e : Fault} :
    append a s = .error e t ↔ a = .error e ∧ t = s := by
  cases a with
  | ok bs => simp [append]
  | error d => simp [append, eq_comm]

/-- Two steps are one only if the second cannot fail: else the bytes of the first would stay. -/
theorem append_bind_append (hb : ∃ bs, b = .ok bs) :
    (append a >>= fun _ ↦ append b) = append (do return (← a) ++ (← b)) := by
  obtain ⟨bs, rfl⟩ := hb
  funext s
  cases a with
  | ok as => exact congrArg _ (List.append_assoc s as bs)
  | error e => rfl

theorem frame_eq (o : ByteOrder) (payload : Bytes) :
    frame o payload = append (Binary.frame o payload) := by
  funext s
  by_cases h : Binary.fits 4 payload.length = true
  · have happend (marker : Bytes) :
        s ++ marker ++ payload ++ marker = s ++ (marker ++ payload ++ marker) := by
      simp only [List.append_assoc]
    simp only [frame, Binary.frame, h, not_true_eq_false, if_true, if_false]
    exact congrArg _ (happend _)
  · simp only [frame, Binary.frame, h]
    rfl

theorem int_eq (o : ByteOrder) (n : Int) : int o n = append (Codec.int.write o n) := by
  by_cases h : Binary.fits 8 n = true
  · simp only [int, Codec.int, h, not_true_eq_false, if_true, if_false, frame_eq]
  · simp only [int, Codec.int, h]
    rfl

theorem real_eq (o : ByteOrder) (x : Double) : real o x = append (Codec.real.write o x) := by
  simp only [real, Codec.real, frame_eq]

theorem flag_eq (o : ByteOrder) (b : Bool) : flag o b = append (Codec.flag.write o b) := by
  simp only [flag, Codec.flag, Codec.map, int_eq]

theorem text_eq (o : ByteOrder) (s : String) : text o s = append (Codec.text.write o s) := by
  simp only [text, Codec.text, Codec.refine, Codec.payload, frame_eq]

theorem ints_eq (o : ByteOrder) (ns : List Int) : ints o ns = append (Codec.ints.write o ns) := by
  by_cases h : ns.all (Binary.fits 8) = true
  · simp only [ints, Codec.ints, Codec.words, h, not_true_eq_false, if_true, if_false, frame_eq]
  · simp only [ints, Codec.ints, h]
    rfl

theorem reals_eq (o : ByteOrder) (xs : List Double) :
    reals o xs = append (Codec.reals.write o xs) := by
  simp only [reals, Codec.reals, Codec.words, frame_eq]

theorem optionalReal_eq (o : ByteOrder) (x : Option Double) :
    optionalReal o x = append ((Codec.optional Codec.real).write o x) := by
  cases x with
  | none =>
    simp only [optionalReal, flag_eq, Codec.optional]
    exact bind_pure _
  | some x =>
    simp only [optionalReal, flag_eq, real_eq, Codec.optional]
    exact append_bind_append (Codec.writes_real x o)

end Write

/-- A value is read back under another form too. -/
theorem Codec.Restores.read_form {α β : Type} {a : Codec α} {x : α} {form : α → β} {o : ByteOrder}
    {bs : Bytes} (hx : a.Restores x) (h : a.write o x = .ok bs) :
    ∃ k, ∀ rest n, (do return form (← a.read o) : Read β) ⟨bs ++ rest, n⟩ =
      .ok (form x) ⟨rest, n + k⟩ := by
  obtain ⟨k, hk⟩ := hx o bs h
  exact ⟨k, fun rest n ↦ EStateM.bind_of_ok (hk rest n)⟩

namespace Entry

variable {o : ByteOrder} {x : Entry} {bs : Bytes}

def encode (o : ByteOrder) : Entry → Except Fault Bytes
  | .bytes bs => Codec.payload.write o bs
  | .int n => Codec.int.write o n
  | .real x => Codec.real.write o x
  | .flag b => Codec.flag.write o b
  | .text s => Codec.text.write o s
  | .ints ns => Codec.ints.write o ns
  | .reals xs => Codec.reals.write o xs
  | .optionalReal x => (Codec.optional Codec.real).write o x

theorem write_eq (o : ByteOrder) (x : Entry) : x.write o = Write.append (x.encode o) := by
  cases x with
  | bytes bs => simp only [write, encode, Codec.payload, Write.frame_eq]
  | int n => exact Write.int_eq o n
  | real x => exact Write.real_eq o x
  | flag b => exact Write.flag_eq o b
  | text s => exact Write.text_eq o s
  | ints ns => exact Write.ints_eq o ns
  | reals xs => exact Write.reals_eq o xs
  | optionalReal x => exact Write.optionalReal_eq o x

def Fits : Entry → Prop
  | .bytes bs => bs.length < 2 ^ 31
  | .int n => IntegerFits n
  | .text s => (Codec.textBytes s).length < 2 ^ 31
  | .ints ns => (∀ n ∈ ns, IntegerFits n) ∧ 8 * ns.length < 2 ^ 31
  | .reals xs => 8 * xs.length < 2 ^ 31
  | .real _ | .flag _ | .optionalReal _ => True

instance : DecidablePred Fits
  | .bytes bs => inferInstanceAs (Decidable (bs.length < 2 ^ 31))
  | .int n => inferInstanceAs (Decidable (IntegerFits n))
  | .text s => inferInstanceAs (Decidable ((Codec.textBytes s).length < 2 ^ 31))
  | .ints ns => inferInstanceAs (Decidable ((∀ n ∈ ns, IntegerFits n) ∧ 8 * ns.length < 2 ^ 31))
  | .reals xs => inferInstanceAs (Decidable (8 * xs.length < 2 ^ 31))
  | .real _ | .flag _ | .optionalReal _ => inferInstanceAs (Decidable True)

theorem exists_frame_iff (o : ByteOrder) (bs : Bytes) :
    (∃ cs, Binary.frame o bs = .ok cs) ↔ bs.length < 2 ^ 31 := by
  constructor
  · intro h
    obtain ⟨cs, hcs⟩ := h
    exact (Binary.fits_four_iff _).mp (Binary.frame_eq_ok_iff.mp hcs).1
  · exact Codec.frame_of_length_lt o

theorem encodes_iff (o : ByteOrder) (x : Entry) : (∃ bs, x.encode o = .ok bs) ↔ x.Fits := by
  cases x with
  | bytes bs =>
    simp only [encode, Codec.payload]
    exact exists_frame_iff o bs
  | int n =>
    simp only [encode, Codec.int]
    split
    · rename_i hn
      rw [exists_frame_iff, Binary.word_length]
      exact iff_of_true (by decide) hn
    · rename_i hn
      refine iff_of_false ?_ hn
      intro h
      obtain ⟨cs, hcs⟩ := h
      cases hcs
  | real x => exact iff_of_true (Codec.writes_real x o) trivial
  | flag b => exact iff_of_true (Codec.writes_flag b o) trivial
  | text s =>
    simp only [encode, Codec.text, Codec.refine, Codec.payload]
    exact exists_frame_iff o _
  | ints ns =>
    simp only [encode, Codec.ints, Codec.words]
    split
    · rename_i hns
      rw [exists_frame_iff, Codec.flatMap_words_length fun o ↦ Binary.word_length o 8]
      exact (and_iff_right (List.all_eq_true.mp hns)).symm
    · rename_i hns
      refine iff_of_false ?_ fun h ↦ hns (List.all_eq_true.mpr h.1)
      intro h
      obtain ⟨cs, hcs⟩ := h
      cases hcs
  | reals xs =>
    simp only [encode, Codec.reals, Codec.words]
    rw [exists_frame_iff, Codec.flatMap_words_length Codec.realWord_length]
    exact Iff.rfl
  | optionalReal x =>
    exact iff_of_true (Codec.Writes.optional (fun y _ ↦ Codec.writes_real y) o) trivial

def records : Entry → Nat
  | .optionalReal (some _) => 2
  | _ => 1

theorem records_of_read {s t : Source} (h : x.kind.read o s = .ok x t) :
    t.records = s.records + x.records := by
  cases x with
  | optionalReal y =>
    obtain ⟨_, _, hy, h⟩ := EStateM.bind_eq_ok_iff.mp h
    cases h
    obtain ⟨rfl, hflag⟩ | ⟨z, u, rfl, hflag, hz⟩ := Codec.of_read_optional hy
    · exact (Codec.single_flag o).records hflag
    · rw [(Codec.single_real o).records hz, (Codec.single_flag o).records hflag]
      rfl
  | _ => exact (RecordKind.single_read o (by nofun)).records h

theorem write_of_encode (h : x.encode o = .ok bs) (s : Bytes) : x.write o s = .ok () (s ++ bs) := by
  rw [write_eq]
  exact Write.append_eq_ok_iff.mpr ⟨bs, h, rfl⟩

theorem write_of_not_fits (h : ¬x.Fits) (o : ByteOrder) : ∃ e, ∀ s, x.write o s = .error e s := by
  cases he : x.encode o with
  | ok bs => exact absurd ((encodes_iff o x).mp ⟨bs, he⟩) h
  | error e =>
    rw [write_eq]
    exact ⟨e, fun s ↦ Write.append_eq_error_iff.mpr ⟨he, rfl⟩⟩

/-- An entry is read back from its bytes, whatever follows them. -/
theorem read_encode (h : x.encode o = .ok bs) (rest : Bytes) (n : Nat) :
    x.kind.read o ⟨bs ++ rest, n⟩ = .ok x ⟨rest, n + x.records⟩ := by
  obtain ⟨k, hk⟩ : ∃ k, ∀ rest n, x.kind.read o ⟨bs ++ rest, n⟩ = .ok x ⟨rest, n + k⟩ := by
    cases x with
    | bytes bs => exact ⟨1, fun rest n ↦ EStateM.bind_of_ok (Codec.read_payload_append h rest n)⟩
    | int n => exact Codec.Restores.read_form (Codec.restores_int n) h
    | real x => exact Codec.Restores.read_form (Codec.restores_real x) h
    | flag b => exact Codec.Restores.read_form (Codec.restores_flag b) h
    | text s => exact ⟨1, fun rest n ↦ EStateM.bind_of_ok (Codec.read_text_append h rest n)⟩
    | ints ns => exact Codec.Restores.read_form (Codec.restores_ints ns) h
    | reals xs => exact Codec.Restores.read_form (Codec.restores_reals xs) h
    | optionalReal x =>
      exact Codec.Restores.read_form (Codec.Restores.optional fun y _ ↦ Codec.restores_real y) h
  have hrecords := records_of_read (hk rest n)
  rw [hk, Nat.add_left_cancel hrecords]

/-- The entries that fit are the ones that are written, and read back. -/
theorem writeEach_eq (o : ByteOrder) (xs : List Entry) (s : Bytes) :
    ∃ bs, writeEach o xs s = (xs.filter Fits, s ++ bs) ∧ ∀ rest n,
      RecordKind.readEach o ((xs.filter Fits).map kind) ⟨bs ++ rest, n⟩ =
        .ok (xs.filter Fits) ⟨rest, n + ((xs.filter Fits).map records).sum⟩ := by
  induction xs generalizing s with
  | nil => exact ⟨[], by rw [List.append_nil]; rfl, fun _ _ ↦ rfl⟩
  | cons x xs ih =>
    by_cases hx : x.Fits
    · obtain ⟨us, hus⟩ := (encodes_iff o x).mpr hx
      obtain ⟨vs, hvs, hread⟩ := ih (s ++ us)
      refine ⟨us ++ vs, ?_, fun rest n ↦ ?_⟩
      · simp only [writeEach, write_of_encode hus, hvs, List.filter_cons, hx, decide_true, if_true,
          List.append_assoc]
      · simp only [List.filter_cons, hx, decide_true, if_true, List.map_cons, List.sum_cons,
          RecordKind.readEach, List.append_assoc, EStateM.bind_of_ok (read_encode hus _ n),
          EStateM.bind_of_ok (hread rest _), Nat.add_assoc]
        rfl
    · obtain ⟨e, he⟩ := write_of_not_fits hx o
      have hfilter : (x :: xs).filter Fits = xs.filter Fits := List.filter_cons_of_neg (by simpa)
      obtain ⟨vs, hvs, hread⟩ := ih s
      rw [hfilter, writeEach, he]
      exact ⟨vs, hvs, hread⟩

/-- A call succeeds just if its entry fits, and leaves the stream as it was if it does not. After
any calls, the stream is read back, up to where it ends, as the entries that fit. -/
theorem readEach_writeEach (o : ByteOrder) (xs : List Entry) (rest : Bytes) :
    (∀ x s, (∃ t, write o x s = .ok () t) ↔ x.Fits) ∧
    (∀ x s e t, write o x s = .error e t → t = s) ∧
    ∃ bs, writeEach o xs [] = (xs.filter Fits, bs) ∧
      RecordKind.readEach o ((xs.filter Fits).map kind) ⟨bs ++ rest, 0⟩ =
        .ok (xs.filter Fits) ⟨rest, ((xs.filter Fits).map records).sum⟩ := by
  refine ⟨fun x s ↦ ?_, fun x s e t h ↦ ?_, ?_⟩
  · rw [write_eq, ← encodes_iff o x]
    constructor
    · intro h
      obtain ⟨t, ht⟩ := h
      obtain ⟨bs, hbs, -⟩ := Write.append_eq_ok_iff.mp ht
      exact ⟨bs, hbs⟩
    · intro h
      obtain ⟨bs, hbs⟩ := h
      exact ⟨s ++ bs, Write.append_eq_ok_iff.mpr ⟨bs, hbs, rfl⟩⟩
  · rw [write_eq] at h
    exact (Write.append_eq_error_iff.mp h).2
  · obtain ⟨bs, hbs, hread⟩ := writeEach_eq o xs []
    have hread := hread rest 0
    rw [Nat.zero_add] at hread
    exact ⟨bs, hbs, hread⟩

/-- Two of the calls fail, one behind a record. -/
theorem readEach_writeEach_refused :
    (∃ e t, write .big (.int (2 ^ 63)) [7] = .error e t ∧ t = [7]) ∧ ∃ bs,
    writeEach .big [.int (2 ^ 63), .optionalReal (some ⟨0x7ff8000000000001⟩), .ints [-2 ^ 63 - 1],
      .ints [], .text "°"] [] =
        ([.optionalReal (some ⟨0x7ff8000000000001⟩), .ints [], .text "°"], bs) ∧
    RecordKind.readEach .big [.optionalReal, .ints, .text] ⟨bs ++ [9], 0⟩ =
      .ok [.optionalReal (some ⟨0x7ff8000000000001⟩), .ints [], .text "°"] ⟨[9], 4⟩ := by
  obtain ⟨-, hkept, bs, hbs, hread⟩ := readEach_writeEach .big [.int (2 ^ 63),
    .optionalReal (some ⟨0x7ff8000000000001⟩), .ints [-2 ^ 63 - 1], .ints [], .text "°"] [9]
  have hrefused : ∃ e t, write .big (.int (2 ^ 63)) [7] = .error e t := ⟨_, _, rfl⟩
  obtain ⟨e, t, ht⟩ := hrefused
  exact ⟨⟨e, t, ht, hkept _ _ e t ht⟩, bs, hbs.trans (congrArg (·, bs) (by decide)), hread⟩

end Entry

end Aquifer
