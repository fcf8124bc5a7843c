import Aquifer.Text.Blank
import Aquifer.Text.Case
import Mathlib.Data.List.Basic
import Mathlib.Data.List.TakeWhile

namespace Aquifer.Text

variable {c d : Char} {cs : List Char} {n m : Nat} {r q : CaseRun}

def isFixed (n : Nat) : Bool :=
  (caseExpansions.lookup n).isNone && caseRuns.all fun r ↦ (r.image? n).isNone

theorem isFixed_iff : isFixed n = true ↔
    caseExpansions.lookup n = none ∧ ∀ r ∈ caseRuns, r.image? n = none := by
  simp only [isFixed, Bool.and_eq_true, Option.isNone_iff_eq_none, List.all_eq_true]

theorem upperChar_of_isFixed (h : isFixed c.toNat = true) : upperChar c = [c] := by
  obtain ⟨hexpansions, hruns⟩ := isFixed_iff.mp h
  rw [upperChar, hexpansions]
  simp only [List.findSome?_eq_none_iff.mpr hruns, Option.map_none, Option.getD_none]

theorem isFixed_ofNat (h : isFixed n = true) : isFixed (Char.ofNat n).toNat = true := by
  by_cases hvalid : n.isValidChar
  · rw [Char.ofNat, dif_pos hvalid]
    exact h
  · rw [Char.ofNat, dif_neg hvalid]
    decide +kernel

theorem mem_caseExpansions {ns : List Nat} (h : caseExpansions.lookup n = some ns) :
    (n, ns) ∈ caseExpansions := by
  obtain ⟨before, after, hsplit, -⟩ := List.lookup_eq_some_iff.mp h
  rw [hsplit]
  exact List.mem_append_right _ List.mem_cons_self

/-- No character of `q` is one that `r` moves its characters to: these lie apart, or alternate. -/
def CaseRun.misses (r q : CaseRun) : Bool :=
  Nat.blt (r.last + r.shift).toNat q.first || Nat.blt q.last (r.first + r.shift).toNat ||
    q.step == 2 && (r.step == 2 || r.first == r.last) &&
      ((r.first + r.shift).toNat + q.first) % 2 == 1

theorem CaseRun.image?_of_misses (h : r.misses q = true) (hr : 0 ≤ r.first + r.shift)
    (hm : r.image? n = some m) : q.image? m = none := by
  rw [image?] at hm
  split at hm
  · rename_i hn
    obtain ⟨hfirst, hlast, hstep⟩ := hn
    cases hm
    simp only [misses, Bool.or_eq_true, Bool.and_eq_true, Nat.blt_eq, beq_iff_eq] at h
    rw [image?, if_neg]
    intro hq
    rcases h with h | ⟨⟨hq2, hr2⟩, hodd⟩
    · omega
    · rw [hq2] at hq
      rcases hr2 with hr2 | hr2
      · rw [hr2] at hstep
        omega
      · omega
  · cases hm

-- a character with several capitals is taken as a run of its own
theorem caseRuns_miss : (caseRuns.all fun r ↦ caseRuns.all r.misses &&
    caseExpansions.all fun e ↦ r.misses ⟨e.1, e.1, 1, 0⟩) = true := by
  decide +kernel

theorem caseRuns_nonneg : ∀ r ∈ caseRuns, 0 ≤ r.first + r.shift := by
  decide +kernel

theorem caseExpansions_fixed : (caseExpansions.all fun e ↦ e.2.all isFixed) = true := by
  decide +kernel

theorem isFixed_image? (hr : r ∈ caseRuns) (hm : r.image? n = some m) : isFixed m = true := by
  have hmiss := List.all_eq_true.mp caseRuns_miss r hr
  rw [Bool.and_eq_true, List.all_eq_true, List.all_eq_true] at hmiss
  have hnone : ∀ {q : CaseRun}, r.misses q = true → q.image? m = none := fun h ↦
    CaseRun.image?_of_misses h (caseRuns_nonneg r hr) hm
  refine isFixed_iff.mpr ⟨List.lookup_eq_none_iff.mpr fun e he ↦ ?_, fun q hq ↦ ?_⟩
  · have hne := hnone (hmiss.2 e he)
    rw [bne_iff_ne]
    intro hm
    simp [CaseRun.image?, hm] at hne
  · exact hnone (hmiss.1 q hq)

/-- A capital is one of several, the image in a run, or a character that does not change. -/
theorem mem_upperChar (h : d ∈ upperChar c) :
    (∃ e ∈ caseExpansions, ∃ n ∈ e.2, d = Char.ofNat n) ∨
    (∃ r ∈ caseRuns, ∃ m, r.image? c.toNat = some m ∧ d = Char.ofNat m) ∨
    d = c ∧ isFixed c.toNat = true := by
  rw [upperChar] at h
  split at h
  · rename_i ns hns
    obtain ⟨n, hn, rfl⟩ := List.mem_map.mp h
    exact Or.inl ⟨_, mem_caseExpansions hns, n, hn, rfl⟩
  · rename_i hexpansions
    rw [List.mem_singleton.mp h]
    cases hruns : caseRuns.findSome? (·.image? c.toNat) with
    | none =>
      rw [List.findSome?_eq_none_iff] at hruns
      exact Or.inr (Or.inr ⟨rfl, isFixed_iff.mpr ⟨hexpansions, hruns⟩⟩)
    | some m =>
      obtain ⟨r, hr, hm⟩ := List.exists_of_findSome?_eq_some hruns
      exact Or.inr (Or.inl ⟨r, hr, m, hm, rfl⟩)

theorem isFixed_of_mem_upperChar (h : d ∈ upperChar c) : isFixed d.toNat = true := by
  rcases mem_upperChar h with ⟨e, he, n, hn, rfl⟩ | ⟨r, hr, m, hm, rfl⟩ | ⟨rfl, hc⟩
  · have hall := List.all_eq_true.mp caseExpansions_fixed e he
    exact isFixed_ofNat (List.all_eq_true.mp hall n hn)
  · exact isFixed_ofNat (isFixed_image? hr hm)
  · exact hc

theorem upperChars_upperChars (cs : List Char) : upperChars (upperChars cs) = upperChars cs := by
  have h : ∀ d ∈ upperChars cs, upperChar d = [d] := by
    intro d hd
    obtain ⟨c, -, hd⟩ := List.mem_flatMap.mp hd
    exact upperChar_of_isFixed (isFixed_of_mem_upperChar hd)
  exact (List.flatMap_congr h).trans (List.flatMap_singleton' _)

theorem upper_upper (s : String) : upper (upper s) = upper s := by
  rw [upper, upper, String.toList_ofList, upperChars_upperChars]

def blankRanges : List (Nat × Nat) :=
  [(0x09, 0x0D), (0x1C, 0x20), (0x85, 0x85), (0xA0, 0xA0), (0x1680, 0x1680), (0x2000, 0x200A),
    (0x2028, 0x2029), (0x202F, 0x202F), (0x205F, 0x205F), (0x3000, 0x3000)]

theorem isBlank_iff : isBlank c = true ↔ ∃ b ∈ blankRanges, b.1 ≤ c.toNat ∧ c.toNat ≤ b.2 := by
  simp only [isBlank, blankRanges, Bool.or_eq_true, Bool.and_eq_true, decide_eq_true_eq,
    beq_iff_eq, List.mem_cons, List.not_mem_nil, or_false, exists_eq_or_imp, exists_eq_left]
  omega

/-- No run of characters that change with case has a blank in it, before or after the change. -/
theorem caseRuns_apart : ∀ r ∈ caseRuns, ∀ b ∈ blankRanges,
    (r.last < b.1 ∨ b.2 < r.first) ∧ (r.last + r.shift < b.1 ∨ b.2 < r.first + r.shift) := by
  decide +kernel

theorem caseExpansions_apart : ∀ e ∈ caseExpansions, e.2 ≠ [] ∧ ∀ b ∈ blankRanges,
    (e.1 < b.1 ∨ b.2 < e.1) ∧ ∀ n ∈ e.2, n < b.1 ∨ b.2 < n := by
  decide +kernel

theorem upperChar_of_isBlank (h : isBlank c = true) : upperChar c = [c] := by
  obtain ⟨b, hb, hfirst, hlast⟩ := isBlank_iff.mp h
  apply upperChar_of_isFixed
  refine isFixed_iff.mpr ⟨List.lookup_eq_none_iff.mpr fun e he ↦ ?_, fun r hr ↦ ?_⟩
  · have hapart := ((caseExpansions_apart e he).2 b hb).1
    rw [bne_iff_ne]
    omega
  · have hapart := (caseRuns_apart r hr b hb).1
    rw [CaseRun.image?, if_neg]
    omega

/-- Numbers that belong to no character are read as the null character, which is no blank. -/
theorem isBlank_ofNat_eq_false (h : ∀ b ∈ blankRanges, n < b.1 ∨ b.2 < n) :
    isBlank (Char.ofNat n) = false := by
  by_cases hvalid : n.isValidChar
  · rw [Char.ofNat, dif_pos hvalid, ← Bool.not_eq_true, isBlank_iff]
    intro hblank
    obtain ⟨b, hb, hfirst, hlast⟩ := hblank
    have hn : (Char.ofNatAux n hvalid).toNat = n := rfl
    have hapart := h b hb
    omega
  · rw [Char.ofNat, dif_neg hvalid]
    rfl

theorem upperChar_ne_nil (c : Char) : upperChar c ≠ [] := by
  rw [upperChar]
  split
  · rename_i ns hns
    exact mt List.map_eq_nil_iff.mp (caseExpansions_apart _ (mem_caseExpansions hns)).1
  · exact List.cons_ne_nil _ _

theorem isBlank_of_mem_upperChar (hc : isBlank c = false) (h : d ∈ upperChar c) :
    isBlank d = false := by
  rcases mem_upperChar h with ⟨e, he, n, hn, rfl⟩ | ⟨r, hr, m, hm, rfl⟩ | ⟨rfl, -⟩
  · exact isBlank_ofNat_eq_false fun b hb ↦ ((caseExpansions_apart e he).2 b hb).2 n hn
  · rw [CaseRun.image?] at hm
    split at hm
    · cases hm
      refine isBlank_ofNat_eq_false fun b hb ↦ ?_
      have hapart := (caseRuns_apart r hr b hb).2
      have hnonneg := caseRuns_nonneg r hr
      omega
    · cases hm
  · exact hc

/-- Dropping characters from the front and replacing characters can be done in either order, if
those to be dropped are not replaced and the others are not replaced by such. -/
theorem dropWhile_flatMap {p : Char → Bool} {f : Char → List Char}
    (hp : ∀ c, p c = true → f c = [c]) (hne : ∀ c, f c ≠ [])
    (hf : ∀ c, p c = false → ∀ d ∈ f c, p d = false) (cs : List Char) :
    (cs.flatMap f).dropWhile p = (cs.dropWhile p).flatMap f := by
  induction cs with
  | nil => rfl
  | cons c cs ih =>
    rw [List.flatMap_cons]
    cases hc : p c with
    | true =>
      rw [hp c hc, List.dropWhile_cons_of_pos hc, ← ih]
      exact List.dropWhile_cons_of_pos hc
    | false =>
      obtain ⟨d, ds, hd⟩ := List.exists_cons_of_ne_nil (hne c)
      have hfirst : ¬p d = true := by simp [hf c hc d (by simp [hd])]
      rw [List.dropWhile_cons_of_neg (by simp [hc]), List.flatMap_cons, hd]
      exact List.dropWhile_cons_of_neg hfirst

/-- Trimming a text and turning its letters into capitals can be done in either order. -/
theorem trimChars_upperChars (cs : List Char) :
    trimChars (upperChars cs) = upperChars (trimChars cs) := by
  have hback : ∀ cs : List Char, (upperChars cs).reverse =
      cs.reverse.flatMap (List.reverse ∘ upperChar) := fun _ ↦ List.reverse_flatMap
  have hblank : ∀ c, isBlank c = true → (List.reverse ∘ upperChar) c = [c] := by
    intro c hc
    rw [Function.comp_apply, upperChar_of_isBlank hc, List.reverse_singleton]
  have hne : ∀ c, (List.reverse ∘ upperChar) c ≠ [] := fun c ↦
    mt List.reverse_eq_nil_iff.mp (upperChar_ne_nil c)
  have hother : ∀ c, isBlank c = false → ∀ d ∈ (List.reverse ∘ upperChar) c, isBlank d = false :=
    fun _ hc _ hd ↦ isBlank_of_mem_upperChar hc (List.mem_reverse.mp hd)
  have hfront : (upperChars cs).dropWhile isBlank = upperChars (cs.dropWhile isBlank) :=
    dropWhile_flatMap (fun _ ↦ upperChar_of_isBlank) upperChar_ne_nil
      (fun _ hc _ ↦ isBlank_of_mem_upperChar hc) cs
  rw [trimChars, hfront, hback, dropWhile_flatMap hblank hne hother, trimChars,
    ← List.reverse_inj, List.reverse_reverse, hback, List.reverse_reverse]

/-- Blanks around a text are trimmed whatever they are. -/
theorem trimChars_blanks {before after : List Char} (hbefore : ∀ c ∈ before, isBlank c = true)
    (hafter : ∀ c ∈ after, isBlank c = true) (cs : List Char) :
    trimChars (before ++ cs ++ after) = trimChars cs := by
  rw [trimChars, List.append_assoc, List.dropWhile_append_of_pos hbefore, List.dropWhile_append]
  split
  · rename_i hempty
    rw [trimChars, List.isEmpty_iff.mp hempty, List.dropWhile_eq_nil_iff.mpr hafter]
  · have hback : ∀ c ∈ after.reverse, isBlank c = true := by simpa using hafter
    rw [List.reverse_append, List.dropWhile_append_of_pos hback, trimChars]

end Aquifer.Text
