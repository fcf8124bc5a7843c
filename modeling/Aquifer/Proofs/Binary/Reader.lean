import Aquifer.Binary.Entry
import Aquifer.Proofs.Binary.Codec
import Mathlib.Data.List.Infix

namespace Aquifer

namespace Read

variable {α β : Type} {o : ByteOrder} {x : Read α} {f : α → Read β} {s t : Source}

theorem stop_of_ok {a : α} (h : x s = .ok a t) : x.stop s = t := by rw [stop, h]

theorem stop_of_error {e : Fault} (h : x s = .error e t) : x.stop s = t := by rw [stop, h]

theorem stop_bind_of_ok {a : α} (h : x s = .ok a t) : (x >>= f).stop s = (f a).stop t := by
  rw [stop, EStateM.bind_of_ok h, stop]

/-- What only looks at a result leaves the reading where it stopped. -/
theorem stop_bind_of_still (hf : ∀ a s, (f a).stop s = s) (x : Read α) (s : Source) :
    (x >>= f).stop s = x.stop s := by
  cases h : x s with
  | ok a t => rw [stop_bind_of_ok h, hf, stop_of_ok h]
  | error e t => rw [stop_of_error (EStateM.bind_of_error h), stop_of_error h]

structure Single (o : ByteOrder) (x : Read α) : Prop where
  fails : ∀ {s e t}, Binary.readFrame o s = .error e t → x s = .error e t
  stops : ∀ {s d t}, Binary.readFrame o s = .ok d t → x.stop s = t

theorem single_readFrame (o : ByteOrder) : (Binary.readFrame o).Single o := ⟨id, stop_of_ok⟩

theorem Single.bind (hx : x.Single o) (hf : ∀ a s, (f a).stop s = s) : (x >>= f).Single o where
  fails h := EStateM.bind_of_error (hx.fails h)
  stops h := (stop_bind_of_still hf x _).trans (hx.stops h)

theorem Single.stop_eq (hx : x.Single o) (s : Source) :
    x.stop s = (Binary.readFrame o).stop s := by
  cases h : Binary.readFrame o s with
  | ok d t => rw [hx.stops h, stop_of_ok h]
  | error e t => rw [stop_of_error (hx.fails h), stop_of_error h]

theorem Single.records (hx : x.Single o) {a : α} (h : x s = .ok a t) :
    t.records = s.records + 1 := by
  cases hframe : Binary.readFrame o s with
  | ok d u =>
    obtain ⟨_, -, -, hrecords⟩ := Binary.readFrame_eq_ok_iff.mp hframe
    rw [← stop_of_ok h, hx.stops hframe, hrecords]
  | error e u =>
    rw [hx.fails hframe] at h
    exact nomatch h

end Read

namespace Codec

variable {α β : Type} {a : Codec α}

def Single (a : Codec α) : Prop := ∀ o, (a.read o).Single o

theorem single_payload : payload.Single := Read.single_readFrame

theorem single_int : int.Single := by
  refine fun o ↦ .bind (Read.single_readFrame o) fun bs s ↦ ?_
  split <;> rfl

theorem single_real : real.Single := by
  refine fun o ↦ .bind (Read.single_readFrame o) fun bs s ↦ ?_
  split <;> rfl

theorem single_words (write : ByteOrder → α → Bytes) (read : ByteOrder → Bytes → α) :
    (words write read).Single := by
  refine fun o ↦ .bind (Read.single_readFrame o) fun bs s ↦ ?_
  split <;> rfl

theorem single_ints : ints.Single := fun o ↦ single_words (Binary.word · 8) Binary.ofWord o

theorem single_reals : reals.Single := single_words realWord ofRealWord

theorem Single.map {form : α → β} {unform : β → α} (ha : a.Single) : (a.map form unform).Single :=
  fun o ↦ .bind (ha o) fun _ _ ↦ rfl

theorem single_flag : flag.Single := single_int.map

theorem Single.refine {form : Nat → α → Except Fault β} {unform : β → α} (ha : a.Single) :
    (a.refine form unform).Single := by
  refine fun o ↦ .bind (ha o) fun x s ↦ ?_
  rw [Read.stop, EStateM.bind_of_ok (rfl : (get : Read Source) s = .ok s s)]
  cases form s.records x <;> rfl

end Codec

/-- The way from one place to another goes forward, past a number of records of at least eight bytes
each. -/
structure Source.Advances (s : Source) (n : Nat) (t : Source) : Prop where
  suffix : t.rest <:+ s.rest
  records : t.records = s.records + n
  length : 8 * n + t.rest.length ≤ s.rest.length

namespace Source

variable {s t u : Source} {n m : Nat}

theorem Advances.refl (s : Source) : s.Advances 0 s :=
  ⟨List.suffix_refl _, rfl, Nat.le_of_eq (Nat.zero_add _)⟩

theorem Advances.trans (hst : s.Advances n t) (htu : t.Advances m u) : s.Advances (n + m) u where
  suffix := htu.suffix.trans hst.suffix
  records := by rw [htu.records, hst.records, Nat.add_assoc]
  length := by
    have := hst.length
    have := htu.length
    omega

end Source

namespace Binary

def attempt (o : ByteOrder) (s : Source) : Option Bytes :=
  match readFrame o s with
  | .ok d _ => some d
  | .error _ _ => none

theorem advances_readFrame (o : ByteOrder) (s : Source) :
    s.Advances ([attempt o s].countP (·.isSome)) ((readFrame o).stop s) := by
  cases h : readFrame o s with
  | ok d t =>
    obtain ⟨bs, hbs, hrest, hrecords⟩ := readFrame_eq_ok_iff.mp h
    obtain ⟨-, rfl⟩ := frame_eq_ok_iff.mp hbs
    rw [attempt, h, Read.stop_of_ok h]
    refine ⟨?_, hrecords, ?_⟩
    · rw [hrest]
      exact List.suffix_append _ _
    · rw [hrest]
      simp only [List.length_append, word_length, List.countP_singleton, Option.isSome_some,
        if_true]
      omega
  | error e t =>
    obtain ⟨hrecords, hsuffix, -⟩ := of_readFrame_error h
    rw [attempt, h, Read.stop_of_error h]
    exact ⟨hsuffix, hrecords, by simpa using hsuffix.length_le⟩

/-- A record is read just if the stream goes on with its length, its payload and the same length
again. If it does not, then the stream ends within the first length or is broken behind the records
counted so far. -/
structure Framing (o : ByteOrder) (s : Source) : Prop where
  reads : ∀ d t, readFrame o s = .ok d t ↔ d.length < 2 ^ 31 ∧
    s.rest = word o 4 d.length ++ d ++ word o 4 d.length ++ t.rest ∧ t.records = s.records + 1
  fails : (∀ d rest, d.length < 2 ^ 31 →
      s.rest ≠ word o 4 d.length ++ d ++ word o 4 d.length ++ rest) →
    ∃ e t, readFrame o s = .error e t ∧ t.records = s.records ∧
      (s.rest.length < 4 ∧ e = .endOfStream ∨
        4 ≤ s.rest.length ∧ ∃ cause, e = .malformed cause (some s.records))

theorem framing (o : ByteOrder) (s : Source) : Framing o s := by
  have hreads : ∀ d t, readFrame o s = .ok d t ↔ d.length < 2 ^ 31 ∧
      s.rest = word o 4 d.length ++ d ++ word o 4 d.length ++ t.rest ∧
      t.records = s.records + 1 := by
    intro d t
    rw [readFrame_eq_ok_iff, ← fits_four_iff]
    constructor
    · intro h
      obtain ⟨bs, hbs, hrest, hrecords⟩ := h
      obtain ⟨hfits, rfl⟩ := frame_eq_ok_iff.mp hbs
      exact ⟨hfits, hrest, hrecords⟩
    · intro h
      obtain ⟨hfits, hrest, hrecords⟩ := h
      exact ⟨_, frame_eq_ok_iff.mpr ⟨hfits, rfl⟩, hrest, hrecords⟩
  refine ⟨hreads, fun hnone ↦ ?_⟩
  cases h : readFrame o s with
  | ok d t =>
    obtain ⟨hlength, hrest, -⟩ := (hreads d t).mp h
    exact absurd hrest (hnone d t.rest hlength)
  | error e t =>
    obtain ⟨hrecords, -, he⟩ := of_readFrame_error h
    exact ⟨e, t, rfl, hrecords, he⟩

end Binary

namespace RecordKind

open Binary

variable {o : ByteOrder} {s t : Source} {k : RecordKind}

theorem single_read (o : ByteOrder) (hk : k ≠ .optionalReal) : (k.read o).Single o := by
  cases k with
  | bytes => exact .bind (Codec.single_payload o) fun _ _ ↦ rfl
  | int => exact .bind (Codec.single_int o) fun _ _ ↦ rfl
  | real => exact .bind (Codec.single_real o) fun _ _ ↦ rfl
  | flag => exact .bind (Codec.single_flag o) fun _ _ ↦ rfl
  | text => exact .bind (Codec.single_payload.refine o) fun _ _ ↦ rfl
  | ints => exact .bind (Codec.single_ints o) fun _ _ ↦ rfl
  | reals => exact .bind (Codec.single_reals o) fun _ _ ↦ rfl
  | optionalReal => exact absurd rfl hk

/-- What the attempts of a call to read records give. Only a flag that is set makes a call go on to
a second record. -/
def attempts (o : ByteOrder) (s : Source) : RecordKind → List (Option Bytes)
  | .optionalReal =>
    match Codec.flag.read o s with
    | .ok true t => [attempt o s, attempt o t]
    | _ => [attempt o s]
  | _ => [attempt o s]

def attemptsOf (o : ByteOrder) : List RecordKind → Source → List (Option Bytes)
  | [], _ => []
  | k :: ks, s => k.attempts o s ++ attemptsOf o ks (k.after o s)

theorem after_of_ne (hk : k ≠ .optionalReal) : k.after o s = (readFrame o).stop s :=
  (single_read o hk).stop_eq s

theorem attempts_of_ne (hk : k ≠ .optionalReal) : k.attempts o s = [attempt o s] := by
  cases k <;> first | rfl | exact absurd rfl hk

theorem attempts_of_set (h : Codec.flag.read o s = .ok true t) :
    RecordKind.optionalReal.attempts o s = [attempt o s, attempt o t] := by
  simp only [attempts, h]

theorem attempts_of_unset (h : ∀ t, Codec.flag.read o s ≠ .ok true t) :
    RecordKind.optionalReal.attempts o s = [attempt o s] := by
  rw [attempts]
  split
  · rename_i t ht
    exact absurd ht (h t)
  · rfl

/-- After a flag that is set the reader goes on behind a second record. -/
theorem after_optionalReal (h : Codec.flag.read o s = .ok true t) :
    RecordKind.optionalReal.after o s = (readFrame o).stop t := by
  have hreal := (Codec.single_real o).stop_eq t
  rw [after, read, Read.stop_bind_of_still fun _ _ ↦ rfl, Codec.optional, Read.stop_bind_of_ok h]
  exact (Read.stop_bind_of_still (fun _ _ ↦ rfl) _ t).trans hreal

/-- After any other flag it stays behind the first. -/
theorem after_optionalReal_of_ne (h : ∀ t, Codec.flag.read o s ≠ .ok true t) :
    RecordKind.optionalReal.after o s = (readFrame o).stop s := by
  rw [after, read, Read.stop_bind_of_still fun _ _ ↦ rfl, ← (Codec.single_flag o).stop_eq s,
    Codec.optional]
  cases hflag : Codec.flag.read o s with
  | ok b t =>
    have hb : b = false := Bool.eq_false_iff.mpr fun hb ↦ h t (hb ▸ hflag)
    subst hb
    rw [Read.stop_bind_of_ok hflag, Read.stop_of_ok hflag]
    rfl
  | error e t =>
    rw [Read.stop_of_error (EStateM.bind_of_error hflag), Read.stop_of_error hflag]

/-- A call passes the records that it finds, be it one or two. -/
theorem advances_after (o : ByteOrder) (s : Source) (k : RecordKind) :
    s.Advances ((k.attempts o s).countP (·.isSome)) (k.after o s) := by
  by_cases hk : k = .optionalReal
  · subst hk
    by_cases hset : ∃ t, Codec.flag.read o s = .ok true t
    · obtain ⟨t, ht⟩ := hset
      have hfirst := advances_readFrame o s
      rw [← (Codec.single_flag o).stop_eq s, Read.stop_of_ok ht] at hfirst
      have hboth := hfirst.trans (advances_readFrame o t)
      rw [← List.countP_append] at hboth
      rw [after_optionalReal ht, attempts_of_set ht]
      exact hboth
    · rw [not_exists] at hset
      rw [after_optionalReal_of_ne hset, attempts_of_unset hset]
      exact advances_readFrame o s
  · rw [attempts_of_ne hk, after_of_ne hk]
    exact advances_readFrame o s

/-- The reader only goes forward, and its counter is the number of records found on the way. -/
theorem advances_run (o : ByteOrder) (ks : List RecordKind) (s : Source) :
    s.Advances ((attemptsOf o ks s).countP (·.isSome)) (run o ks s) := by
  induction ks generalizing s with
  | nil => exact .refl s
  | cons k ks ih =>
    rw [attemptsOf, List.countP_append]
    exact (advances_after o s k).trans (ih (k.after o s))

theorem run_append (o : ByteOrder) (ks ls : List RecordKind) (s : Source) :
    run o (ks ++ ls) s = run o ls (run o ks s) := List.foldl_append

/-- After any calls, failed ones among them, the reader takes what is framed and nothing else, and
reports what is not behind the records counted so far. It has counted every record that was framed,
whatever a call made of the payload, and has not gone back. -/
theorem run_counts_framed (o : ByteOrder) (bs : Bytes) (ks : List RecordKind) :
    Framing o (run o ks ⟨bs, 0⟩) ∧
      (∀ k : RecordKind, k ≠ .optionalReal → (k.read o).Single o) ∧
      (run o ks ⟨bs, 0⟩).records = (attemptsOf o ks ⟨bs, 0⟩).countP (·.isSome) ∧
      8 * (run o ks ⟨bs, 0⟩).records ≤ bs.length - (run o ks ⟨bs, 0⟩).rest.length ∧
      (run o ks ⟨bs, 0⟩).rest <:+ bs ∧
      ∀ ls, (run o (ks ++ ls) ⟨bs, 0⟩).rest <:+ (run o ks ⟨bs, 0⟩).rest := by
  have hrun := advances_run o ks ⟨bs, 0⟩
  have hrecords := hrun.records
  have hlength := hrun.length
  rw [Nat.zero_add] at hrecords
  refine ⟨framing o _, fun k hk ↦ single_read o hk, hrecords, ?_, hrun.suffix, fun ls ↦ ?_⟩
  · rw [hrecords]
    exact Nat.le_sub_of_add_le hlength
  · rw [run_append]
    exact (advances_run o ls _).suffix

def brokenStream : Bytes :=
  [4, 0, 0, 0, 1, 2, 3, 4, 4, 0, 0, 0] ++ [0, 0, 0, 0, 1, 0, 0, 0] ++ [1, 0]

/-- The first record of the stream is no integer and still counted. The second is not counted, and
what is left behind it is the end of the stream. -/
theorem run_counts_brokenStream :
    (RecordKind.int.read .little ⟨brokenStream, 0⟩ =
        .error .recordWidth ⟨[0, 0, 0, 0, 1, 0, 0, 0, 1, 0], 1⟩) ∧
    (RecordKind.int.read .little).stop ⟨brokenStream, 0⟩ = ⟨[0, 0, 0, 0, 1, 0, 0, 0, 1, 0], 1⟩ ∧
    (run .little [.int, .text] ⟨brokenStream, 0⟩).records = 1 ∧
    (run .little [.int, .text] ⟨brokenStream, 0⟩).rest <:+ brokenStream ∧
    ∃ t, readFrame .little (run .little [.int, .text] ⟨brokenStream, 0⟩) = .error .endOfStream t ∧
      t.records = 1 := by
  obtain ⟨hframing, hsingle, hrecords, -, hsuffix, -⟩ :=
    run_counts_framed .little brokenStream [.int, .text]
  have hone := hrecords.trans (by decide : _ = 1)
  have hnone : ∀ d rest, d.length < 2 ^ 31 → (run .little [.int, .text] ⟨brokenStream, 0⟩).rest ≠
      word .little 4 d.length ++ d ++ word .little 4 d.length ++ rest := by
    intro d rest _ h
    have hlength := congrArg List.length h
    have htwo : (run .little [.int, .text] ⟨brokenStream, 0⟩).rest.length = 2 := by rfl
    simp only [List.length_append, word_length] at hlength
    omega
  obtain ⟨e, t, hread, ht, he⟩ := hframing.fails hnone
  obtain ⟨-, rfl⟩ | ⟨hlong, -⟩ := he
  · refine ⟨by rfl, (hsingle .int (by decide)).stops (by rfl), hone, hsuffix, t, hread, ?_⟩
    exact ht.trans hone
  · exact absurd hlong (by decide)

end RecordKind

end Aquifer
