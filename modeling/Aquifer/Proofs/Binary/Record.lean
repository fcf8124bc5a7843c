import Aquifer.Binary.Record
import Aquifer.Proofs.Outcome
import Mathlib.Algebra.Group.Nat.Defs

namespace Aquifer

namespace Read

variable {α β : Type} {x : Read α} {f : α → Read β}

/-- A reading that gets past a test that ends in a fault goes on behind it. -/
theorem of_guard {p : Prop} [Decidable p] {s u : Source} {b : β} {y : Read β}
    (hx : ∀ s, ∃ e t, x s = .error e t) (h : (if p then x >>= f else y) s = .ok b u) :
    ¬p ∧ y s = .ok b u := by
  split at h
  · obtain ⟨e, t, he⟩ := hx s
    rw [EStateM.bind_of_error he] at h
    exact nomatch h
  · rename_i hp
    exact ⟨hp, h⟩

/-- A reading that fails does so in a test that ends in a fault, or behind it. -/
theorem of_guard_error {p : Prop} [Decidable p] {s t : Source} {e : Fault} {y : Read β}
    (hx : ∀ a u, x s ≠ .ok a u) (h : (if p then x >>= f else y) s = .error e t) :
    x s = .error e t ∨ y s = .error e t := by
  split at h
  · obtain h | ⟨a, u, ha, -⟩ := EStateM.bind_eq_error_iff.mp h
    · exact Or.inl h
    · exact absurd ha (hx a u)
  · exact Or.inr h

end Read

namespace Binary

theorem frame_eq_ok_iff {o : ByteOrder} {payload bs : Bytes} :
    frame o payload = .ok bs ↔ fits 4 payload.length = true ∧
      bs = word o 4 payload.length ++ payload ++ word o 4 payload.length := by
  rw [frame]
  constructor
  · intro h
    split at h
    · rename_i hf
      exact ⟨hf, (Except.ok.inj h).symm⟩
    · exact nomatch h
  · intro h
    obtain ⟨hf, rfl⟩ := h
    exact if_pos hf

theorem fits_four_iff (n : Nat) : fits 4 n = true ↔ n < 2 ^ 31 := by
  have hw : wordCount 4 = 2 ^ 32 := rfl
  simp only [fits, hw, Bool.and_eq_true, decide_eq_true_eq]
  omega

theorem next_append (bs rest : Bytes) (n : Nat) :
    next bs.length ⟨bs ++ rest, n⟩ = .ok bs ⟨rest, n⟩ := by
  simp only [next, List.take_left, List.drop_left]

/-- Reading a record takes exactly what was written for it and counts it. -/
theorem readFrame_append {o : ByteOrder} {payload bs : Bytes} (h : frame o payload = .ok bs)
    (rest : Bytes) (n : Nat) :
    readFrame o ⟨bs ++ rest, n⟩ = .ok payload ⟨rest, n + 1⟩ := by
  obtain ⟨hf, rfl⟩ := frame_eq_ok_iff.mp h
  have hmarker : ofWord o (word o 4 payload.length) = payload.length := ofWord_word hf
  have hlength : (word o 4 payload.length).length = 4 := word_length o 4 _
  have hleading := next_append (word o 4 payload.length)
    (payload ++ (word o 4 payload.length ++ rest)) n
  have hpayload := next_append payload (word o 4 payload.length ++ rest) n
  have htrailing := next_append (word o 4 payload.length) rest n
  rw [hlength] at hleading htrailing
  have hnonneg : ¬(payload.length : Int) < 0 := by omega
  rw [List.append_assoc, List.append_assoc, readFrame, EStateM.bind_of_ok hleading]
  simp only [hmarker, hlength, hnonneg, Nat.lt_irrefl, if_false, Int.toNat_natCast]
  rw [EStateM.bind_of_ok hpayload]
  simp only [Nat.lt_irrefl, if_false]
  rw [EStateM.bind_of_ok htrailing]
  simp only [hmarker, hlength, Nat.lt_irrefl, ne_eq, not_true_eq_false, if_false]
  rfl

theorem orMalformed_eq_ok_iff {α : Type} {cause : Malformation} {x : Read α} {s t : Source}
    {a : α} : orMalformed cause x s = .ok a t ↔ x s = .ok a t := by
  rw [orMalformed]
  split
  · rename_i h
    rw [h]
    exact iff_of_false nofun nofun
  · rfl

theorem readAll_eq_ok_iff {α : Type} {x : Read α} {bs : Bytes} {a : α} :
    readAll x bs = .ok a ↔ ∃ t, x ⟨bs, 0⟩ = .ok a t := by
  rw [readAll]
  cases x ⟨bs, 0⟩ <;> simp

theorem readAll_eq_error_iff {α : Type} {x : Read α} {bs : Bytes} {e : Fault} :
    readAll x bs = .error e ↔ ∃ t, x ⟨bs, 0⟩ = .error e t := by
  rw [readAll]
  cases x ⟨bs, 0⟩ <;> simp

theorem ofDigits_lt (bs : Bytes) : ofDigits bs < wordCount bs.length := by
  induction bs with
  | nil => exact Nat.one_pos
  | cons b bs ih =>
    have hb := b.toNat_lt
    rw [ofDigits, List.length_cons, wordCount]
    omega

/-- A word spells an integer that fits into a word of the same width. -/
theorem fits_ofWord (o : ByteOrder) (bs : Bytes) : fits bs.length (ofWord o bs) = true := by
  have hlt : ofWordUnsigned o bs < wordCount bs.length := by
    have h := ofDigits_lt (arrange o bs)
    rwa [arrange_length] at h
  by_cases hsign : 2 * ofWordUnsigned o bs < wordCount bs.length
  all_goals
    simp only [fits, ofWord, hsign, if_true, if_false, Bool.and_eq_true, decide_eq_true_eq]
    omega

theorem digits_ofDigits (bs : Bytes) : digits bs.length (ofDigits bs) = bs := by
  induction bs with
  | nil => rfl
  | cons b bs ih =>
    have hb := b.toNat_lt
    have hdiv : (b.toNat + 256 * ofDigits bs) / 256 = ofDigits bs := by omega
    have hbyte : UInt8.ofNat (b.toNat + 256 * ofDigits bs) = b := by
      apply UInt8.toNat_inj.mp
      rw [UInt8.toNat_ofNat']
      omega
    rw [List.length_cons, ofDigits, digits, hdiv, hbyte, ih]

theorem word_ofWord (o : ByteOrder) {w : Nat} {bs : Bytes} (h : bs.length = w) :
    word o w (ofWord o bs) = bs := by
  subst h
  have hlt : ofWordUnsigned o bs < wordCount bs.length := by
    have h := ofDigits_lt (arrange o bs)
    rwa [arrange_length] at h
  have hmod : ofWord o bs % wordCount bs.length = ofWordUnsigned o bs := by
    by_cases hsign : 2 * ofWordUnsigned o bs < wordCount bs.length
    · simp only [ofWord, hsign, if_true]
      exact Int.emod_eq_of_lt (by omega) (by omega)
    · simp only [ofWord, hsign, if_false, Int.sub_emod_right]
      exact Int.emod_eq_of_lt (by omega) (by omega)
  have hdigits := digits_ofDigits (arrange o bs)
  rw [arrange_length] at hdigits
  rw [word, hmod, Int.toNat_natCast, ofWordUnsigned, hdigits, arrange_arrange]

/-- Reading a record finds what was written for its payload and takes just that. -/
theorem readFrame_eq_ok_iff {o : ByteOrder} {s t : Source} {payload : Bytes} :
    readFrame o s = .ok payload t ↔ ∃ bs, frame o payload = .ok bs ∧
      s.rest = bs ++ t.rest ∧ t.records = s.records + 1 := by
  constructor
  · intro h
    obtain ⟨leading, _, hleading, h⟩ := EStateM.bind_eq_ok_iff.mp h
    cases hleading
    obtain ⟨hfour, h⟩ := Read.of_guard (fun s ↦ ⟨_, s, rfl⟩) h
    obtain ⟨hsign, h⟩ := Read.of_guard (fun s ↦ ⟨_, s, rfl⟩) h
    obtain ⟨body, _, hbody, h⟩ := EStateM.bind_eq_ok_iff.mp h
    cases hbody
    obtain ⟨hshort, h⟩ := Read.of_guard (fun s ↦ ⟨_, s, rfl⟩) h
    obtain ⟨trailing, _, htrailing, h⟩ := EStateM.bind_eq_ok_iff.mp h
    cases htrailing
    obtain ⟨hlast, h⟩ := Read.of_guard (fun s ↦ ⟨_, s, rfl⟩) h
    obtain ⟨hsame, h⟩ := Read.of_guard (fun s ↦ ⟨_, s, rfl⟩) h
    cases h
    have hfour : (s.rest.take 4).length = 4 :=
      Nat.le_antisymm (List.length_take_le ..) (Nat.not_lt.mp hfour)
    have hfits := fits_ofWord o (s.rest.take 4)
    have hleading := word_ofWord o hfour
    rw [hfour] at hfits
    generalize ofWord o (s.rest.take 4) = n at *
    have hfourth := Nat.le_antisymm (List.length_take_le ..) (Nat.not_lt.mp hlast)
    have htrailing := word_ofWord o hfourth
    rw [not_not.mp hsame] at htrailing
    have hlength : (((s.rest.drop 4).take n.toNat).length : Int) = n := by
      rw [Nat.le_antisymm (List.length_take_le ..) (Nat.not_lt.mp hshort)]
      exact Int.toNat_of_nonneg (Int.not_lt.mp hsign)
    refine ⟨_, frame_eq_ok_iff.mpr ⟨by rwa [hlength], rfl⟩, ?_, rfl⟩
    rw [hlength, List.append_assoc, List.append_assoc]
    nth_rewrite 1 [hleading]
    rw [htrailing]
    simp only [List.take_append_drop]
  · rintro ⟨bs, hbs, hrest, hrecords⟩
    have hread := readFrame_append hbs t.rest s.records
    rw [← hrest, ← hrecords] at hread
    exact hread

/-- A record that cannot be read is not counted: the stream has ended, or is broken behind the
records before. -/
theorem of_readFrame_error {o : ByteOrder} {s t : Source} {e : Fault}
    (h : readFrame o s = .error e t) : t.records = s.records ∧ t.rest <:+ s.rest ∧
      (s.rest.length < 4 ∧ e = .endOfStream ∨
        4 ≤ s.rest.length ∧ ∃ cause, e = .malformed cause (some s.records)) := by
  obtain h | ⟨leading, _, hleading, h⟩ := EStateM.bind_eq_error_iff.mp h
  · exact nomatch h
  cases hleading
  have hmarker := List.drop_suffix 4 s.rest
  have hpayload (n : Nat) := (List.drop_suffix n _).trans hmarker
  have hbehind (n : Nat) := (List.drop_suffix 4 _).trans (hpayload n)
  rw [List.length_take] at h
  by_cases hfour : s.rest.length < 4
  · rw [if_pos (by omega)] at h
    cases h
    exact ⟨rfl, hmarker, Or.inl ⟨hfour, rfl⟩⟩
  rw [if_neg (by omega)] at h
  have hlong := Nat.not_lt.mp hfour
  obtain h | h := Read.of_guard_error nofun h
  · cases h
    exact ⟨rfl, hmarker, Or.inr ⟨hlong, _, rfl⟩⟩
  obtain h | ⟨body, _, hbody, h⟩ := EStateM.bind_eq_error_iff.mp h
  · exact nomatch h
  cases hbody
  obtain h | h := Read.of_guard_error nofun h
  · cases h
    exact ⟨rfl, hpayload _, Or.inr ⟨hlong, _, rfl⟩⟩
  obtain h | ⟨trailing, _, htrailing, h⟩ := EStateM.bind_eq_error_iff.mp h
  · exact nomatch h
  cases htrailing
  obtain h | h := Read.of_guard_error nofun h
  · cases h
    exact ⟨rfl, hbehind _, Or.inr ⟨hlong, _, rfl⟩⟩
  obtain h | h := Read.of_guard_error nofun h
  · cases h
    exact ⟨rfl, hbehind _, Or.inr ⟨hlong, _, rfl⟩⟩
  · exact nomatch h

/-- The length word bounds the payload of every record that is read. -/
theorem readFrame_length_lt {o : ByteOrder} {s t : Source} {payload : Bytes}
    (h : readFrame o s = .ok payload t) : payload.length < 2 ^ 31 := by
  obtain ⟨bs, hbs, -⟩ := readFrame_eq_ok_iff.mp h
  exact (fits_four_iff _).mp (frame_eq_ok_iff.mp hbs).1

end Binary

end Aquifer
