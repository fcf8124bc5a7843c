import Aquifer.Binary.File
import Aquifer.Proofs.Binary.Layout
import Mathlib.Data.List.Infix

namespace Aquifer

def Fault.IsMalformed (e : Fault) : Prop := ∃ cause record, e = .malformed cause record

/-- The fault is one by which a stream that ends too early shows: there is no further record, or a
record is broken. -/
def Fault.BreaksOff (e : Fault) : Prop := e = .endOfStream ∨ e.IsMalformed

namespace Read

variable {α β : Type} {x : Read α} {f : α → Read β} {E : Fault → Prop}

/-- A reading that succeeds takes some bytes. It succeeds alike whatever follows them, and fails
with a fault from `E` where only a part of them is left. -/
def Exact (E : Fault → Prop) (x : Read α) : Prop :=
  ∀ s a t, x s = .ok a t → ∃ bs, s.rest = bs ++ t.rest ∧
    (∀ rest, x ⟨bs ++ rest, s.records⟩ = .ok a ⟨rest, t.records⟩) ∧
    ∀ p, p <+: bs → p ≠ bs → ∃ e u, x ⟨p, s.records⟩ = .error e u ∧ E e

theorem exact_of_rest_eq (h : ∀ s a t, x s = .ok a t →
    s.rest = t.rest ∧ ∀ rest, x ⟨rest, s.records⟩ = .ok a ⟨rest, t.records⟩) : x.Exact E := by
  intro s a t hx
  obtain ⟨hrest, hany⟩ := h s a t hx
  refine ⟨[], hrest, hany, fun p hp hne ↦ ?_⟩
  exact absurd (List.prefix_nil.mp hp) hne

theorem exact_pure (a : α) : (pure a : Read α).Exact E := by
  refine exact_of_rest_eq fun s b t h ↦ ?_
  cases h
  exact ⟨rfl, fun _ ↦ rfl⟩

theorem exact_throw (e : Fault) : (throw e : Read α).Exact E := fun _ _ _ h ↦ nomatch h

theorem exact_malformed (cause : Malformation) :
    (Binary.malformed cause : Read α).Exact E :=
  fun _ _ _ h ↦ nomatch h

theorem prefix_append_cases {p bs cs : Bytes} (hp : p <+: bs ++ cs) (hne : p ≠ bs ++ cs) :
    (p <+: bs ∧ p ≠ bs) ∨ ∃ q, p = bs ++ q ∧ q <+: cs ∧ q ≠ cs := by
  rcases List.prefix_or_prefix_of_prefix hp (List.prefix_append bs cs) with hbs | ⟨q, rfl⟩
  · by_cases heq : p = bs
    · refine Or.inr ⟨[], by rw [heq, List.append_nil], List.nil_prefix, fun h ↦ hne ?_⟩
      rw [heq, ← h, List.append_nil]
    · exact Or.inl ⟨hbs, heq⟩
  · exact Or.inr ⟨q, rfl, (List.prefix_append_right_inj bs).mp hp, fun h ↦ hne (h ▸ rfl)⟩

theorem Exact.bind (hx : x.Exact E) (hf : ∀ a, (f a).Exact E) : (x >>= f).Exact E := by
  intro s b u h
  obtain ⟨a, t, hxs, hft⟩ := EStateM.bind_eq_ok_iff.mp h
  obtain ⟨bs, hbs, hxrest, hxcut⟩ := hx s a t hxs
  obtain ⟨cs, hcs, hfrest, hfcut⟩ := hf a t b u hft
  refine ⟨bs ++ cs, by rw [hbs, hcs, List.append_assoc], fun rest ↦ ?_, fun p hp hne ↦ ?_⟩
  · rw [List.append_assoc, EStateM.bind_of_ok (hxrest _), hfrest]
  · rcases prefix_append_cases hp hne with ⟨hp, hne⟩ | ⟨q, rfl, hq, hne⟩
    · obtain ⟨e, v, hv, he⟩ := hxcut p hp hne
      exact ⟨e, v, EStateM.bind_of_error hv, he⟩
    · obtain ⟨e, v, hv, he⟩ := hfcut q hq hne
      exact ⟨e, v, by rw [EStateM.bind_of_ok (hxrest q), hv], he⟩

theorem Exact.ite {p : Prop} [Decidable p] {y : Read α} (hx : x.Exact E) (hy : y.Exact E) :
    (if p then x else y).Exact E := by
  split
  · exact hx
  · exact hy

theorem Exact.guard {p : Prop} [Decidable p] {cause : Malformation} {k : PUnit → Read α}
    (hk : ∀ u, (k u).Exact E) :
    (if p then Binary.malformed cause >>= k else k ⟨⟩).Exact E :=
  .ite (.bind (exact_malformed cause) hk) (hk ⟨⟩)

/-- Asking for a number of bytes is exact if too few of them are reported. -/
theorem exact_next {n : Nat} {short : Bytes → Read Unit} {f : Bytes → Read α}
    (hshort : ∀ bs s, ∃ e t, short bs s = .error e t ∧ E e) (hf : ∀ bs, (f bs).Exact E) :
    (do
      let bs ← Binary.next n
      if bs.length < n then short bs
      f bs).Exact E := by
  intro s a t h
  let after (bs : Bytes) : Read α := if bs.length < n then short bs >>= fun _ ↦ f bs else f bs
  have hstep : ∀ s : Source, (do
      let bs ← Binary.next n
      if bs.length < n then short bs
      f bs) s = after (s.rest.take n) ⟨s.rest.drop n, s.records⟩ := fun _ ↦ rfl
  have hafter : ∀ bs : Bytes, ¬bs.length < n → after bs = f bs := fun _ hn ↦ if_neg hn
  rw [hstep] at h
  obtain ⟨hn, h⟩ := of_guard (fun u ↦ (hshort _ u).imp fun _ ⟨v, hv, _⟩ ↦ ⟨v, hv⟩) h
  obtain ⟨cs, hcs, hrest, hcut⟩ := hf _ _ _ _ h
  have hlength : (s.rest.take n).length = n :=
    Nat.le_antisymm (List.length_take_le ..) (Nat.not_lt.mp hn)
  have htake : ∀ rest, (s.rest.take n ++ rest).take n = s.rest.take n :=
    fun _ ↦ List.take_left' hlength
  have hdrop : ∀ rest, (s.rest.take n ++ rest).drop n = rest := fun _ ↦ List.drop_left' hlength
  refine ⟨s.rest.take n ++ cs, ?_, fun rest ↦ ?_, fun p hp hne ↦ ?_⟩
  · rw [List.append_assoc, ← hcs, List.take_append_drop]
  · rw [hstep, List.append_assoc, htake, hdrop, hafter _ hn, hrest]
  · rcases prefix_append_cases hp hne with ⟨hp, hne⟩ | ⟨q, rfl, hq, hne⟩
    · have hlt : (p.take n).length < n := by
        have hle := hp.length_le
        have hne : p.length ≠ (s.rest.take n).length := fun h ↦ hne (hp.eq_of_length h)
        rw [List.length_take]
        omega
      obtain ⟨e, v, hv, he⟩ := hshort (p.take n) ⟨p.drop n, s.records⟩
      exact ⟨e, v, by rw [hstep, show after _ = _ from if_pos hlt, EStateM.bind_of_error hv], he⟩
    · obtain ⟨e, v, hv, he⟩ := hcut q hq hne
      exact ⟨e, v, by rw [hstep, htake, hdrop, hafter _ hn, hv], he⟩

end Read

namespace Binary

open Read

theorem exact_readFrame (o : ByteOrder) : (readFrame o).Exact Fault.BreaksOff := by
  have hbroken : ∀ (cause : Malformation) (s : Source),
      ∃ e t, (malformed cause : Read Unit) s = .error e t ∧ e.BreaksOff :=
    fun cause s ↦ ⟨_, s, rfl, Or.inr ⟨cause, _, rfl⟩⟩
  refine exact_next (fun _ s ↦ ⟨_, s, rfl, Or.inl rfl⟩) fun leading ↦ .guard fun _ ↦ ?_
  refine exact_next (fun _ ↦ hbroken _) fun payload ↦ ?_
  refine exact_next (fun _ ↦ hbroken _) fun trailing ↦ .guard fun _ ↦ ?_
  refine exact_of_rest_eq fun s a t h ↦ ?_
  cases h
  exact ⟨rfl, fun _ ↦ rfl⟩

theorem exact_readMany {α : Type} {x : Read α} {E : Fault → Prop} (hx : x.Exact E) (n : Nat) :
    (readMany x n).Exact E := by
  induction n with
  | zero => exact exact_pure []
  | succ n ih => exact .bind hx fun a ↦ .bind ih fun as ↦ exact_pure (a :: as)

/-- The end of the stream is reported as broken data too. -/
theorem exact_orMalformed {α : Type} {x : Read α} (hx : x.Exact Fault.BreaksOff)
    (cause : Malformation) : (orMalformed cause x).Exact Fault.IsMalformed := by
  intro s a t h
  obtain ⟨bs, hbs, hrest, hcut⟩ := hx s a t (orMalformed_eq_ok_iff.mp h)
  refine ⟨bs, hbs, fun rest ↦ orMalformed_eq_ok_iff.mpr (hrest rest), fun p hp hne ↦ ?_⟩
  obtain ⟨e, u, hu, rfl | ⟨_, _, rfl⟩⟩ := hcut p hp hne
  · exact ⟨_, u, by rw [orMalformed, hu]; rfl, _, _, rfl⟩
  · exact ⟨_, u, by rw [orMalformed, hu], _, _, rfl⟩

end Binary

namespace Codec

open Read

variable {α β : Type} {a : Codec α} {b : Codec β}

def Exact (a : Codec α) : Prop := ∀ o, (a.read o).Exact Fault.BreaksOff

theorem exact_payload : payload.Exact := Binary.exact_readFrame

theorem exact_int : int.Exact :=
  fun o ↦ .bind (Binary.exact_readFrame o) fun _ ↦ .ite (exact_pure _) (exact_throw _)

theorem exact_real : real.Exact :=
  fun o ↦ .bind (Binary.exact_readFrame o) fun _ ↦ .ite (exact_pure _) (exact_throw _)

theorem exact_words (write : ByteOrder → α → Bytes) (read : ByteOrder → Bytes → α) :
    (words write read).Exact :=
  fun o ↦ .bind (Binary.exact_readFrame o) fun _ ↦ .ite (exact_pure _) (exact_throw _)

theorem exact_reals : reals.Exact := exact_words realWord ofRealWord

theorem exact_ints : ints.Exact := by
  intro o
  show ((words (Binary.word · 8) Binary.ofWord).read o).Exact _
  exact exact_words _ _ o

theorem Exact.pair (ha : a.Exact) (hb : b.Exact) : (a.pair b).Exact :=
  fun o ↦ .bind (ha o) fun _ ↦ .bind (hb o) fun _ ↦ exact_pure _

theorem Exact.map {form : α → β} {unform : β → α} (ha : a.Exact) : (a.map form unform).Exact :=
  fun o ↦ .bind (ha o) fun _ ↦ exact_pure _

theorem Exact.refine {form : Nat → α → Except Fault β} {unform : β → α} (ha : a.Exact) :
    (a.refine form unform).Exact := by
  -- whether the form is refused depends on the number of records, not on the stream
  refine fun o ↦ .bind (ha o) fun x ↦ exact_of_rest_eq fun s y t h ↦ ?_
  obtain ⟨_, _, hget, h⟩ := EStateM.bind_eq_ok_iff.mp h
  cases hget
  cases hform : form s.records x with
  | error e =>
    rw [hform] at h
    cases h
  | ok z =>
    rw [hform] at h
    cases h
    refine ⟨rfl, fun rest ↦ ?_⟩
    rw [EStateM.bind_of_ok (rfl : (get : Read Source) ⟨rest, s.records⟩ = .ok _ _), hform]
    rfl

theorem exact_flag : flag.Exact := exact_int.map

theorem exact_text : text.Exact := exact_payload.refine

theorem Exact.optional (ha : a.Exact) : (optional a).Exact :=
  fun o ↦ .bind (exact_flag o) fun _ ↦ .ite (.bind (ha o) fun _ ↦ exact_pure _) (exact_pure none)

theorem Exact.counted (ha : a.Exact) : (counted a).Exact :=
  fun o ↦ .bind (exact_int o) fun n ↦ Binary.exact_readMany (ha o) n.toNat

theorem compositional_exact : Compositional @Exact where
  int := exact_int
  real := exact_real
  reals := exact_reals
  pair := Exact.pair
  map := Exact.map
  optional := Exact.optional
  counted := Exact.counted

theorem exact_configuration : configuration.Exact := by
  have hinflux : influxColumns.Exact :=
    .refine <| .pair exact_int <| .pair exact_ints <| .pair exact_ints exact_reals
  exact compositional_exact.configuration exact_ints.refine exact_ints.refine hinflux

theorem exact_solutions : solutions.Exact :=
  compositional_exact.solutions exact_int.refine exact_reals.refine exact_reals.refine

end Codec

end Aquifer
