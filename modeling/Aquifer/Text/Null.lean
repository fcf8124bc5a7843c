
namespace Aquifer.Text

def hasNull (s : String) : Bool := s.toList.contains '\x00'

def untilNull (s : String) : String := String.ofList (s.toList.takeWhile (· != '\x00'))

theorem hasNull_iff {s : String} : hasNull s = true ↔ '\x00' ∈ s.toList := List.contains_iff_mem

theorem takeWhile_ne_of_not_mem {c : Char} {cs : List Char} (h : c ∉ cs) :
    cs.takeWhile (· != c) = cs := by
  induction cs with
  | nil => rfl
  | cons d cs ih =>
    simp only [List.mem_cons, not_or] at h
    simp [ih h.2, Ne.symm h.1]

theorem untilNull_of_not_hasNull {s : String} (h : hasNull s = false) : untilNull s = s := by
  have h : '\x00' ∉ s.toList := by simpa [hasNull] using h
  rw [untilNull, takeWhile_ne_of_not_mem h, String.ofList_toList]

end Aquifer.Text
