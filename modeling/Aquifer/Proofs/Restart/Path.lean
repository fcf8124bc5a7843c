import Aquifer.Proofs.Text.Split
import Aquifer.Restart.Path
import Mathlib.Data.List.Basic

namespace Aquifer.Path

variable {p q : Path} {n s t : String} {cs : List Char}

theorem ofText_eq (s : String) : ofText s = ⟨.ofSlashes (s.toList.takeWhile (· == '/')).length,
    ((s.toList.splitOn '/').map .ofList).filter keeps⟩ := by
  rw [← Text.splitOn_singleton]
  rfl

theorem parts_ofText (s : String) :
    (ofText s).parts = ((s.toList.splitOn '/').map .ofList).filter keeps :=
  congrArg parts (ofText_eq s)

structure IsName (n : String) : Prop where
  keeps : keeps n = true
  slashless : '/' ∉ n.toList

def Normal (p : Path) : Prop := ∀ n ∈ p.parts, IsName n

theorem normal_ofText (s : String) : (ofText s).Normal := by
  intro n hn
  rw [parts_ofText, List.mem_filter] at hn
  obtain ⟨hn, hkeeps⟩ := hn
  obtain ⟨cs, hcs, rfl⟩ := List.mem_map.mp hn
  refine ⟨hkeeps, ?_⟩
  rw [String.toList_ofList]
  exact Text.not_mem_of_mem_splitOn hcs

theorem Normal.join (hp : p.Normal) (hq : q.Normal) : (p.join q).Normal := by
  rw [Path.join]
  split
  · exact fun n hn ↦ (List.mem_append.mp hn).elim (hp n) (hq n)
  · exact hq

theorem Normal.parent (h : p.Normal) : p.parent.Normal := fun n hn ↦
  h n (List.dropLast_subset _ hn)

theorem IsName.ne_empty (h : IsName n) : n ≠ "" := by
  have hkeeps := h.keeps
  rw [Path.keeps, Bool.and_eq_true, decide_eq_true_eq] at hkeeps
  exact hkeeps.1

theorem IsName.head?_ne (h : IsName n) : n.toList.head? ≠ some '/' := fun hc ↦
  h.slashless (List.mem_of_mem_head? hc)

theorem takeWhile_slash (h : cs.head? ≠ some '/') : cs.takeWhile (· == '/') = [] := by
  cases cs with
  | nil => rfl
  | cons c cs =>
    rw [List.head?_cons, ne_eq, Option.some.injEq] at h
    exact List.takeWhile_cons_of_neg (by simpa using h)

theorem ofText_of_isName (h : IsName n) : ofText n = ⟨.here, [n]⟩ := by
  have hroot : (ofText n).root = .here := by
    rw [ofText, takeWhile_slash h.head?_ne]
    rfl
  have hparts : (ofText n).parts = [n] := by
    rw [parts_ofText, List.splitOn_eq_singleton h.slashless]
    simp [h.keeps]
  exact congrArg₂ Path.mk hroot hparts

/-- The slashes of a root make no names. -/
theorem ofText_root_append (r : PathRoot) (h : s.toList.head? ≠ some '/') :
    ofText (r.text ++ s) = ⟨r, (ofText s).parts⟩ := by
  have htake := takeWhile_slash h
  have hroot : (ofText (r.text ++ s)).root = r := by
    cases r <;> simp [ofText, PathRoot.text, htake, PathRoot.ofSlashes]
  have hparts : (ofText (r.text ++ s)).parts = (ofText s).parts := by
    rw [parts_ofText, parts_ofText]
    cases r <;> simp [PathRoot.text, List.splitOn_cons_eq_if_modifyHead, keeps]
  exact congrArg₂ Path.mk hroot hparts

theorem parts_ofText_intercalate {ns : List String} (h : ∀ n ∈ ns, IsName n) :
    (ofText ("/".intercalate ns)).parts = ns := by
  rw [parts_ofText, String.toList_intercalate]
  cases ns with
  | nil => rfl
  | cons n ns =>
    have hslashless : ∀ cs ∈ (n :: ns).map String.toList, '/' ∉ cs := by
      intro cs hcs
      obtain ⟨m, hm, rfl⟩ := List.mem_map.mp hcs
      exact (h m hm).slashless
    show (((['/'].intercalate _).splitOn '/').map String.ofList).filter keeps = n :: ns
    rw [List.splitOn_intercalate '/' hslashless (by simp), List.map_map]
    have hof : String.ofList ∘ String.toList = id := funext fun m ↦ String.ofList_toList
    rw [hof, List.map_id, List.filter_eq_self]
    exact fun m hm ↦ (h m hm).keeps

theorem head?_intercalate_ne {ns : List String} (h : ∀ n ∈ ns, IsName n) :
    ("/".intercalate ns).toList.head? ≠ some '/' := by
  cases ns with
  | nil => simp
  | cons n ns =>
    have hn := h n List.mem_cons_self
    have hhead : ("/".intercalate (n :: ns)).toList.head? = n.toList.head? := by
      cases ns with
      | nil => rw [String.intercalate_singleton]
      | cons m ns =>
        rw [String.intercalate_cons_cons, String.append_assoc, String.toList_append,
          List.head?_append]
        cases hchars : n.toList with
        | nil => exact absurd (String.toList_eq_nil_iff.mp hchars) hn.ne_empty
        | cons c cs => rfl
    rw [hhead]
    exact hn.head?_ne

theorem ofText_text (h : p.Normal) : ofText p.text = p := by
  rw [text]
  split
  · rename_i hdot
    have hparts : (ofText ".").parts = [] := by
      rw [parts_ofText]
      decide
    calc ofText "." = ⟨.here, []⟩ := congrArg (Path.mk .here) hparts
      _ = p := by rw [← hdot.1, ← hdot.2]
  · rw [ofText_root_append p.root (head?_intercalate_ne h), parts_ofText_intercalate h]

theorem getLast?_join (h : q.parts.getLast? = some n) :
    (p.join q).parts.getLast? = some n := by
  rw [join]
  split
  · rw [List.getLast?_append, h]
    rfl
  · exact h

theorem name_eq (h : p.parts.getLast? = some n) : p.name = n := by
  rw [name, List.getLastD_eq_getLast?, h]
  rfl

/-- The last name of a path, put behind its parent, gives the path again. -/
theorem join_parent_ofText (h : p.parts.getLast? = some n) (hn : IsName n) :
    p.parent.join (ofText n) = p := by
  rw [ofText_of_isName hn, join, if_pos rfl]
  exact congrArg (Path.mk p.root) (List.dropLast_append_getLast? n h)

theorem exists_text_eq_append (h : p.parts.getLast? = some n) : ∃ t, p.text = t ++ n := by
  obtain ⟨init, hinit⟩ := List.getLast?_eq_some_iff.mp h
  rw [text, if_neg (by simp [hinit]), hinit]
  cases init with
  | nil => exact ⟨p.root.text, by rw [List.nil_append, String.intercalate_singleton]⟩
  | cons m init =>
    rw [String.intercalate_append_of_ne_nil (by simp) (by simp), String.intercalate_singleton,
      ← String.append_assoc]
    exact ⟨_, rfl⟩

/-- A last name that is no step upward is still the last one when the steps upward are taken. -/
theorem settle_append (hn : n ≠ "..") (absolute : Bool) (passed ns : List String) :
    settle absolute passed (ns ++ [n]) = settle absolute passed ns ++ [n] := by
  induction passed, ns using settle.induct absolute with
  | case1 passed => simp [settle]
  | case2 rest ih => rw [List.cons_append, settle, settle, ih]
  | case3 rest m before ih => rw [List.cons_append, settle, settle, ih]
  | case4 passed m rest hm ih => rw [List.cons_append, settle, settle, ih] <;> exact hm

theorem getLast?_resolved (h : p.parts.getLast? = some n) (hn : n ≠ "..") :
    p.resolved.parts.getLast? = some n := by
  obtain ⟨init, hinit⟩ := List.getLast?_eq_some_iff.mp h
  rw [resolved, hinit, settle_append hn, List.getLast?_concat]

/-- An ending without slashes ends the last name. -/
theorem exists_getLast?_ofText_append (h : '/' ∉ t.toList) (hkeeps : ∀ n, keeps (n ++ t) = true)
    (s : String) : ∃ n, (ofText (s ++ t)).parts.getLast? = some (n ++ t) := by
  obtain ⟨init, last, -, happend⟩ := Text.exists_splitOn_append h s.toList
  refine ⟨.ofList last, ?_⟩
  have hlast : String.ofList (last ++ t.toList) = .ofList last ++ t := by
    rw [String.ofList_append, String.ofList_toList]
  rw [parts_ofText, String.toList_append, happend, List.map_append, List.map_singleton, hlast,
    List.filter_append, List.filter_singleton, hkeeps]
  exact List.getLast?_concat

/-- An ending that does not begin with a slash leaves the root alone. -/
theorem root_ofText_append (h : t.toList.head? ≠ some '/') (s : String) :
    (ofText (s ++ t)).root = (ofText s).root := by
  rw [ofText, ofText, String.toList_append, List.takeWhile_append, takeWhile_slash h,
    List.append_nil]
  split
  · rename_i hall
    exact congrArg PathRoot.ofSlashes hall.symm
  · rfl

theorem keeps_of_hasNull (h : Text.hasNull n = true) : keeps n = true := by
  rw [keeps, Bool.and_eq_true, decide_eq_true_eq, decide_eq_true_eq]
  constructor <;> rintro rfl <;> exact absurd h (by decide)

theorem hasNull_ofText (s : String) : (ofText s).hasNull = Text.hasNull s := by
  rw [Bool.eq_iff_iff, hasNull, List.any_eq_true, Text.hasNull_iff,
    Text.mem_iff_exists_mem_splitOn (by decide : '\x00' ≠ '/')]
  constructor
  · intro h
    obtain ⟨n, hn, hnull⟩ := h
    rw [parts_ofText] at hn
    obtain ⟨ds, hds, rfl⟩ := List.mem_map.mp (List.mem_filter.mp hn).1
    rw [Text.hasNull_iff, String.toList_ofList] at hnull
    exact ⟨ds, hds, hnull⟩
  · intro h
    obtain ⟨ds, hds, hmem⟩ := h
    have hnull : Text.hasNull (.ofList ds) = true := by
      rw [Text.hasNull_iff, String.toList_ofList]
      exact hmem
    refine ⟨.ofList ds, ?_, hnull⟩
    rw [parts_ofText]
    exact List.mem_filter.mpr ⟨List.mem_map.mpr ⟨ds, hds, rfl⟩, keeps_of_hasNull hnull⟩

theorem hasNull_join (p q : Path) :
    (p.join q).hasNull = (decide (q.root = .here) && p.hasNull || q.hasNull) := by
  rw [join]
  split
  · rename_i h
    rw [hasNull, List.any_append, h]
    rfl
  · rename_i h
    rw [decide_eq_false h]
    rfl

end Aquifer.Path
