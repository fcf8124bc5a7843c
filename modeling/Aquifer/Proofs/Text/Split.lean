import Mathlib.Data.String.Basic

namespace Aquifer.Text

open String (utf8Len)

variable {c d : Char} {passed name rest : List Char} {found : List String}

/-- At a separator the name before it is found, and the next one begins behind it. -/
theorem splitOnAux_cons_self :
    String.splitOnAux (.ofList (passed ++ name ++ c :: rest)) (.ofList [c])
        ⟨utf8Len passed⟩ ⟨utf8Len passed + utf8Len name⟩ 0 found =
      String.splitOnAux (.ofList (passed ++ name ++ c :: rest)) (.ofList [c])
        ⟨utf8Len (passed ++ name ++ [c])⟩ ⟨utf8Len (passed ++ name ++ [c])⟩ 0
        (.ofList name :: found) := by
  have hend := String.atEnd_of_valid (passed ++ name) (c :: rest)
  have hget := String.get_of_valid (passed ++ name) (c :: rest)
  have hnext := String.next_of_valid (passed ++ name) c rest
  have hname := String.extract_of_valid passed name (c :: rest)
  rw [String.utf8Len_append] at hend hget hnext
  have hsep : String.Pos.Raw.get (.ofList [c]) 0 = c := String.get_of_valid [] [c]
  have hpast : String.Pos.Raw.next (.ofList [c]) 0 = ⟨0 + c.utf8Size⟩ :=
    String.next_of_valid [] c []
  have hlast : String.Pos.Raw.atEnd (.ofList [c]) ⟨0 + c.utf8Size⟩ = true :=
    (String.atEnd_of_valid [c] []).mpr rfl
  have hback : String.Pos.Raw.unoffsetBy ⟨utf8Len passed + utf8Len name + c.utf8Size⟩
      ⟨0 + c.utf8Size⟩ = ⟨utf8Len passed + utf8Len name⟩ := by
    rw [String.Pos.Raw.unoffsetBy, Nat.zero_add, Nat.add_sub_cancel]
  rw [String.splitOnAux.eq_def, if_neg (mt hend.mp (List.cons_ne_nil _ _)), hget, hsep,
    List.headD_cons, if_pos (beq_self_eq_true c)]
  simp only [hnext, hpast, hlast, hback, hname, if_true]
  rw [String.utf8Len_append, String.utf8Len_append, String.utf8Len_cons, String.utf8Len_nil,
    Nat.zero_add]

/-- Any other character belongs to the name. -/
theorem splitOnAux_cons_of_ne (h : d ≠ c) :
    String.splitOnAux (.ofList (passed ++ name ++ d :: rest)) (.ofList [c])
        ⟨utf8Len passed⟩ ⟨utf8Len passed + utf8Len name⟩ 0 found =
      String.splitOnAux (.ofList (passed ++ name ++ d :: rest)) (.ofList [c])
        ⟨utf8Len passed⟩ ⟨utf8Len passed + utf8Len (name ++ [d])⟩ 0 found := by
  have hend := String.atEnd_of_valid (passed ++ name) (d :: rest)
  have hget := String.get_of_valid (passed ++ name) (d :: rest)
  have hnext := String.next_of_valid (passed ++ name) d rest
  rw [String.utf8Len_append] at hend hget hnext
  have hsep : String.Pos.Raw.get (.ofList [c]) 0 = c := String.get_of_valid [] [c]
  rw [String.splitOnAux.eq_def, if_neg (mt hend.mp (List.cons_ne_nil _ _)), hget, hsep,
    List.headD_cons, if_neg (by rwa [beq_iff_eq])]
  show String.splitOnAux _ _ _ (String.Pos.Raw.next _ ⟨utf8Len passed + utf8Len name⟩) 0 found = _
  rw [hnext, String.utf8Len_append, String.utf8Len_cons, String.utf8Len_nil, Nat.zero_add,
    Nat.add_assoc]

theorem splitOnAux_eq (c : Char) (passed name rest : List Char) (found : List String) :
    String.splitOnAux (.ofList (passed ++ name ++ rest)) (.ofList [c])
        ⟨utf8Len passed⟩ ⟨utf8Len passed + utf8Len name⟩ 0 found =
      found.reverse ++ ((rest.splitOn c).modifyHead (name ++ ·)).map .ofList := by
  -- on the characters still to be read; a separator makes the name part of what is passed
  induction rest generalizing passed name found with
  | nil =>
    have hend := String.atEnd_of_valid (passed ++ name) []
    rw [String.utf8Len_append] at hend
    rw [String.splitOnAux.eq_def, if_pos (hend.mpr rfl), String.extract_of_valid]
    simp
  | cons d rest ih =>
    rw [List.splitOn_cons_eq_if_modifyHead]
    by_cases h : d = c
    · subst h
      have hrest := ih (passed ++ name ++ [d]) [] (.ofList name :: found)
      rw [List.append_nil, List.append_assoc _ [d], String.utf8Len_nil, Nat.add_zero] at hrest
      rw [splitOnAux_cons_self, if_pos (beq_self_eq_true d)]
      refine hrest.trans ?_
      cases rest.splitOn d <;> simp
    · have hrest := ih passed (name ++ [d]) found
      rw [List.append_assoc, List.append_assoc, ← List.append_assoc passed] at hrest
      rw [splitOnAux_cons_of_ne h, if_neg (by rwa [beq_iff_eq])]
      refine hrest.trans ?_
      cases rest.splitOn c <;> simp

theorem splitOn_singleton (s : String) (c : Char) :
    s.splitOn (.singleton c) = (s.toList.splitOn c).map .ofList := by
  have h := splitOnAux_eq c [] [] s.toList []
  rw [List.append_nil, List.nil_append, String.ofList_toList] at h
  rw [String.splitOn, if_neg (by simp), String.singleton_eq_ofList]
  refine h.trans ?_
  cases s.toList.splitOn c <;> simp

/-- A character in front begins a piece that is empty or lengthens the first one. -/
theorem splitOn_cons_cases (c d : Char) (cs : List Char) :
    d = c ∧ (d :: cs).splitOn c = [] :: cs.splitOn c ∨
    d ≠ c ∧ ∃ ds rest, cs.splitOn c = ds :: rest ∧ (d :: cs).splitOn c = (d :: ds) :: rest := by
  rw [List.splitOn_cons_eq_if_modifyHead]
  by_cases h : d = c
  · rw [if_pos (beq_iff_eq.mpr h)]
    exact Or.inl ⟨h, rfl⟩
  · rw [if_neg (mt beq_iff_eq.mp h)]
    obtain ⟨ds, rest, hcs⟩ := List.exists_cons_of_ne_nil (List.splitOn_ne_nil c cs)
    exact Or.inr ⟨h, ds, rest, hcs, by rw [hcs, List.modifyHead_cons]⟩

theorem not_mem_of_mem_splitOn {cs ds : List Char} (h : ds ∈ cs.splitOn c) : c ∉ ds := by
  induction cs generalizing ds with
  | nil =>
    rw [List.splitOn_nil, List.mem_singleton] at h
    rw [h]
    exact List.not_mem_nil
  | cons d cs ih =>
    rcases splitOn_cons_cases c d cs with ⟨-, hcons⟩ | ⟨hd, es, rest, hcs, hcons⟩
    · rw [hcons, List.mem_cons] at h
      rcases h with rfl | h
      · exact List.not_mem_nil
      · exact ih h
    · rw [hcs] at ih
      rw [hcons, List.mem_cons] at h
      rcases h with rfl | h
      · rw [List.mem_cons, not_or]
        exact ⟨Ne.symm hd, ih List.mem_cons_self⟩
      · exact ih (List.mem_cons_of_mem _ h)

theorem mem_iff_exists_mem_splitOn (h : d ≠ c) (cs : List Char) :
    d ∈ cs ↔ ∃ ds ∈ cs.splitOn c, d ∈ ds := by
  induction cs with
  | nil => simp
  | cons e cs ih =>
    rcases splitOn_cons_cases c e cs with ⟨rfl, hcons⟩ | ⟨-, es, rest, hcs, hcons⟩
    · rw [hcons, List.mem_cons, ih]
      simp [h]
    · rw [hcs] at ih
      rw [hcons, List.mem_cons, ih]
      simp [or_assoc]

/-- What is put behind a text lengthens its last piece. -/
theorem exists_splitOn_append {ds : List Char} (h : c ∉ ds) (cs : List Char) : ∃ init last,
    cs.splitOn c = init ++ [last] ∧ (cs ++ ds).splitOn c = init ++ [last ++ ds] := by
  induction cs with
  | nil => exact ⟨[], [], rfl, List.splitOn_eq_singleton h⟩
  | cons d cs ih =>
    obtain ⟨init, last, hcs, happend⟩ := ih
    rw [List.cons_append, List.splitOn_cons_eq_if_modifyHead, List.splitOn_cons_eq_if_modifyHead,
      hcs, happend]
    split
    · exact ⟨[] :: init, last, rfl, rfl⟩
    · cases init with
      | nil => exact ⟨[], d :: last, rfl, rfl⟩
      | cons es init => exact ⟨(d :: es) :: init, last, rfl, rfl⟩

end Aquifer.Text
