import Aquifer.Proofs.Numerical.Mark
import Aquifer.Proofs.Text.Case

namespace Aquifer

def Axis.names : Axis → List Char
  | .x => ['X', 'I']
  | .y => ['Y', 'J']
  | .z => ['Z', 'K']

namespace Face

variable {c : Char} {cs : List Char} {a : Axis} {f : Face} {s t : String}

theorem axisLetter_eq_letter_iff : axisLetter c = a.letter ↔ c ∈ a.names := by
  unfold axisLetter
  split <;> cases a <;> simp_all [Axis.letter, Axis.names]

theorem axisLetter_eq_sign_iff : axisLetter c = f.sign ↔ c = f.sign := by
  unfold axisLetter sign
  split <;> split <;> simp

theorem map_axisLetter_eq_chars_iff :
    cs.map axisLetter = f.chars ↔ ∃ a ∈ f.axis.names, cs = [a, f.sign] := by
  match cs with
  | [c, d] =>
    simp only [chars, List.map_cons, List.map_nil, List.cons.injEq, axisLetter_eq_letter_iff,
      axisLetter_eq_sign_iff, and_true]
    constructor
    · exact fun h ↦ ⟨c, h.1, rfl, h.2⟩
    · intro h
      obtain ⟨a, ha, rfl, hd⟩ := h
      exact ⟨ha, hd⟩
  | [] => simp [chars]
  | [c] => simp [chars]
  | c :: d :: e :: cs => simp [chars]

theorem chars_injective {f g : Face} (h : f.chars = g.chars) : f = g := by
  obtain ⟨_ | _ | _, _ | _⟩ := f <;> obtain ⟨_ | _ | _, _ | _⟩ := g <;> revert h <;> decide

theorem toList_upper_trim (s : String) :
    (Text.upper (Text.trim s)).toList = Text.upperChars (Text.trimChars s.toList) := by
  rw [Text.upper, Text.trim, String.toList_ofList, String.toList_ofList]

theorem ofText_eq_ok_iff : ofText s = .ok f ↔
    ∃ a ∈ f.axis.names, Text.upper (Text.trim s) = String.ofList [a, f.sign] := by
  have hname : ∀ a, Text.upper (Text.trim s) = String.ofList [a, f.sign] ↔
      Text.upperChars (Text.trimChars s.toList) = [a, f.sign] := by
    intro a
    rw [← String.toList_inj, toList_upper_trim, String.toList_ofList]
  simp only [hname]
  rw [← map_axisLetter_eq_chars_iff, ofText]
  constructor
  · intro h
    split at h
    · rename_i g hg
      cases h
      have hchars := List.find?_some hg
      rw [beq_iff_eq] at hchars
      exact hchars.symm
    · cases h
  · intro h
    split
    · rename_i g hg
      have hchars := List.find?_some hg
      rw [beq_iff_eq, h] at hchars
      rw [chars_injective hchars]
    · rename_i hnone
      have hf := List.find?_eq_none.mp hnone f (mem_all f)
      exact absurd (beq_iff_eq.mpr h.symm) hf

/-- Both texts name the same face, or neither names one. -/
def ReadAlike (s t : String) : Prop := ∀ f, ofText s = .ok f ↔ ofText t = .ok f

theorem readAlike_of_upper_trim (h : Text.upper (Text.trim s) = Text.upper (Text.trim t)) :
    ReadAlike s t := by
  intro f
  rw [ofText_eq_ok_iff, ofText_eq_ok_iff, h]

theorem readAlike_blanks {before after : String}
    (hbefore : ∀ c ∈ before.toList, Text.isBlank c = true)
    (hafter : ∀ c ∈ after.toList, Text.isBlank c = true) (s : String) :
    ReadAlike (before ++ s ++ after) s := by
  apply readAlike_of_upper_trim
  rw [← String.toList_inj, toList_upper_trim, toList_upper_trim, String.toList_append,
    String.toList_append, Text.trimChars_blanks hbefore hafter]

theorem readAlike_of_upper (h : Text.upper s = Text.upper t) : ReadAlike s t := by
  apply readAlike_of_upper_trim
  rw [Text.upper, Text.upper, String.ofList_inj] at h
  rw [← String.toList_inj, toList_upper_trim, toList_upper_trim, ← Text.trimChars_upperChars, h,
    Text.trimChars_upperChars]

theorem mem_names_iff {m : Char} {b : Axis} (hm : m ∈ a.names) :
    m ∈ b.names ↔ a.letter = b.letter := by
  rw [← axisLetter_eq_letter_iff] at hm ⊢
  rw [hm]

/-- The letters of one axis stand for each other. -/
theorem readAlike_of_mem_names {m n : Char} {rest : List Char} (hm : m ∈ a.names)
    (hn : n ∈ a.names) (hs : Text.upper (Text.trim s) = String.ofList (m :: rest))
    (ht : Text.upper (Text.trim t) = String.ofList (n :: rest)) : ReadAlike s t := by
  intro f
  have hnamed : ∀ l, (∃ b ∈ f.axis.names, String.ofList (l :: rest) = String.ofList [b, f.sign]) ↔
      l ∈ f.axis.names ∧ rest = [f.sign] := by
    intro l
    simp only [String.ofList_inj, List.cons.injEq]
    constructor
    · intro h
      obtain ⟨b, hb, rfl, hrest⟩ := h
      exact ⟨hb, hrest⟩
    · exact fun h ↦ ⟨l, h.1, rfl, h.2⟩
  rw [ofText_eq_ok_iff, ofText_eq_ok_iff, hs, ht, hnamed, hnamed, mem_names_iff hm,
    mem_names_iff hn]

theorem ofText_eq_error_iff : ofText s = .error (.badFace s) ↔ ∀ f, ofText s ≠ .ok f := by
  constructor
  · intro h f hf
    rw [h] at hf
    cases hf
  · intro h
    rw [ofText] at h ⊢
    split
    · rename_i f hf
      simp only [hf] at h
      exact absurd rfl (h f)
    · rfl

/-- Across a face the place changes by one along the axis of the face, and along no other axis. -/
theorem along_offset (f : Face) (a : Axis) :
    f.offset.along a = if a = f.axis then if f.upper then 1 else -1 else 0 := by
  obtain ⟨axis, upper⟩ := f
  cases axis <;> cases a <;> rfl

/-- A text names a face just if, trimmed and in capitals, it is one of the two letters of the axis
and the sign; any other text is refused, and reported as it was given. So blanks around a text make
no difference, nor does the case of its letters, nor which letter of the axis is used, and the face
that was named leads one step along the named axis alone. -/
theorem ofText_names (text : String) :
    (∀ f, ofText text = .ok f ↔
      ∃ a ∈ f.axis.names, Text.upper (Text.trim text) = String.ofList [a, f.sign]) ∧
    (ofText text = .error (.badFace text) ↔
      ∀ f : Face, ∀ a ∈ f.axis.names, Text.upper (Text.trim text) ≠ String.ofList [a, f.sign]) ∧
    (∀ before after : String, (∀ c ∈ before.toList, Text.isBlank c = true) →
      (∀ c ∈ after.toList, Text.isBlank c = true) → ReadAlike (before ++ text ++ after) text) ∧
    ReadAlike (Text.upper text) text ∧
    (∀ other, Text.upper other = Text.upper text → ReadAlike other text) ∧
    (∀ other a rest, ∀ m ∈ Axis.names a, ∀ n ∈ Axis.names a,
      Text.upper (Text.trim other) = String.ofList (m :: rest) →
      Text.upper (Text.trim text) = String.ofList (n :: rest) → ReadAlike other text) ∧
    ∀ f, ofText text = .ok f → f.offset.along f.axis = (if f.upper then 1 else -1) ∧
      ∀ a, a ≠ f.axis → f.offset.along a = 0 := by
  refine ⟨fun f ↦ ofText_eq_ok_iff, ?_, fun before after hbefore hafter ↦ ?_,
    readAlike_of_upper (Text.upper_upper text), fun other ↦ readAlike_of_upper, ?_, ?_⟩
  · rw [ofText_eq_error_iff]
    simp only [ne_eq, ofText_eq_ok_iff, not_exists, not_and]
  · exact readAlike_blanks hbefore hafter text
  · intro other a rest m hm n hn
    exact readAlike_of_mem_names hm hn
  · intro f _
    constructor
    · rw [along_offset, if_pos rfl]
    · intro a ha
      rw [along_offset, if_neg ha]

/-- The small letter without a dot has the capital `I`, and a small `j` with a caron has two
characters for its capital. -/
theorem ofText_names_letters : ofText "ı-" = .ok ⟨.x, false⟩ ∧
    ReadAlike ("\t" ++ "ı-" ++ "\n") "ı-" ∧
    ReadAlike "i-" "ı-" ∧ ReadAlike " x- " "ı-" ∧ (Face.offset ⟨.x, false⟩).along .x = -1 ∧
    ofText "ǰ-" = .error (.badFace "ǰ-") := by
  obtain ⟨hnamed, -, hblanks, -, hcase, hletters, hoffset⟩ := ofText_names "ı-"
  have hupper : Text.upper (Text.trim "ı-") = String.ofList ['I', '-'] := by decide
  have hother : Text.upper (Text.trim " x- ") = String.ofList ['X', '-'] := by decide
  have hface : ofText "ı-" = .ok ⟨.x, false⟩ := (hnamed ⟨.x, false⟩).mpr ⟨'I', by decide, hupper⟩
  refine ⟨hface, hblanks "\t" "\n" (List.all_eq_true.mp rfl) (List.all_eq_true.mp rfl),
    hcase "i-" (by decide), hletters _ .x ['-'] 'X' (by decide) 'I' (by decide) hother hupper,
    (hoffset _ hface).1, ?_⟩
  refine (ofText_names "ǰ-").2.1.mpr fun f a _ h ↦ ?_
  have hthree : (Text.upper (Text.trim "ǰ-")).toList.length = 3 := by decide
  rw [h, String.toList_ofList] at hthree
  cases hthree

end Face

end Aquifer
