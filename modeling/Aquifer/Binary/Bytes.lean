
namespace Aquifer

abbrev Bytes := List UInt8

inductive ByteOrder where
  | little
  | big
  deriving DecidableEq, Repr

namespace Binary

def digits : Nat → Nat → Bytes
  | 0, _ => []
  | w + 1, n => UInt8.ofNat n :: digits w (n / 256)

def ofDigits : Bytes → Nat
  | [] => 0
  | b :: bs => b.toNat + 256 * ofDigits bs

/-- Bytes from least significant first to the given order, and back. -/
def arrange : ByteOrder → Bytes → Bytes
  | .little, bs => bs
  | .big, bs => bs.reverse

def wordCount : Nat → Nat
  | 0 => 1
  | w + 1 => 256 * wordCount w

def word (o : ByteOrder) (w : Nat) (n : Int) : Bytes :=
  arrange o (digits w (n % wordCount w).toNat)

def ofWordUnsigned (o : ByteOrder) (bs : Bytes) : Nat := ofDigits (arrange o bs)

def ofWord (o : ByteOrder) (bs : Bytes) : Int :=
  let n := ofWordUnsigned o bs
  if 2 * n < wordCount bs.length then n else n - wordCount bs.length

def fits (w : Nat) (n : Int) : Bool := -wordCount w ≤ 2 * n && 2 * n < wordCount w

def fitsUnsigned (w : Nat) (n : Int) : Bool := 0 ≤ n && n < wordCount w

theorem digits_length (w n : Nat) : (digits w n).length = w := by
  induction w generalizing n with
  | zero => rfl
  | succ w ih => simp [digits, ih]

theorem arrange_length (o : ByteOrder) (bs : Bytes) : (arrange o bs).length = bs.length := by
  cases o <;> simp [arrange]

theorem arrange_arrange (o : ByteOrder) (bs : Bytes) : arrange o (arrange o bs) = bs := by
  cases o <;> simp [arrange]

theorem word_length (o : ByteOrder) (w : Nat) (n : Int) : (word o w n).length = w := by
  simp [word, arrange_length, digits_length]

theorem wordCount_pos (w : Nat) : 0 < wordCount w := by
  induction w with
  | zero => decide
  | succ w ih => exact Nat.mul_pos (by decide) ih

theorem ofDigits_digits (w n : Nat) : ofDigits (digits w n) = n % wordCount w := by
  induction w generalizing n with
  | zero => simp [digits, ofDigits, wordCount, Nat.mod_one]
  | succ w ih =>
    have h : n % (256 * wordCount w) = n % 256 + 256 * (n / 256 % wordCount w) := Nat.mod_mul
    simp only [digits, ofDigits, ih, UInt8.toNat_ofNat']
    rw [wordCount, h]

theorem ofWordUnsigned_word (o : ByteOrder) (w : Nat) (n : Int) :
    (ofWordUnsigned o (word o w n) : Int) = n % wordCount w := by
  have hp : (0 : Int) < wordCount w := Int.natCast_pos.mpr (wordCount_pos w)
  have h₀ := Int.emod_nonneg n (Int.ne_of_gt hp)
  have h₁ := Int.emod_lt_of_pos n hp
  have h₂ : (n % wordCount w).toNat < wordCount w := by omega
  rw [ofWordUnsigned, word, arrange_arrange, ofDigits_digits, Nat.mod_eq_of_lt h₂]
  omega

theorem ofWord_word {o : ByteOrder} {w : Nat} {n : Int} (h : fits w n = true) :
    ofWord o (word o w n) = n := by
  have hp : (0 : Int) < wordCount w := Int.natCast_pos.mpr (wordCount_pos w)
  simp only [fits, Bool.and_eq_true, decide_eq_true_eq] at h
  have hu := ofWordUnsigned_word o w n
  simp only [ofWord, word_length]
  rcases Int.lt_or_le n 0 with hn | hn
  · have : n % wordCount w = n + wordCount w := by
      rw [← Int.add_emod_right, Int.emod_eq_of_lt] <;> omega
    split <;> omega
  · have : n % wordCount w = n := Int.emod_eq_of_lt hn (by omega)
    split <;> omega

end Binary

end Aquifer
