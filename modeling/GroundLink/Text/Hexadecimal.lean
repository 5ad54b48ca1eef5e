/-!
# Hexadecimal numbers
-/

namespace GroundLink.Text

/-- The value of a hexadecimal digit. -/
def hexValue? (c : Char) : Option Nat :=
  if c.isDigit then some (c.toNat - '0'.toNat)
  else if 'a' ≤ c ∧ c ≤ 'f' then some (c.toNat - 'a'.toNat + 10)
  else if 'A' ≤ c ∧ c ≤ 'F' then some (c.toNat - 'A'.toNat + 10)
  else none

/-- A digit is worth less than 16. -/
theorem hexValue?_lt {c : Char} {n : Nat} (h : hexValue? c = some n) : n < 16 := by
  unfold hexValue? at h
  simp only [Char.isDigit, Char.le_def, UInt32.le_iff_toNat_le, Bool.and_eq_true,
    decide_eq_true_eq] at h
  have digit : '0'.toNat = 48 ∧ '9'.val.toNat = 57 := by decide
  have small : 'a'.toNat = 97 ∧ 'f'.val.toNat = 102 := by decide
  have capital : 'A'.toNat = 65 ∧ 'F'.val.toNat = 70 := by decide
  have : c.toNat = c.val.toNat := rfl
  split at h
  · injection h; omega
  · split at h
    · injection h; omega
    · split at h
      · injection h; omega
      · cases h

/-- The number that digits stand for; any other character counts as the digit 0. -/
def hexNumber (cs : List Char) : Nat := cs.foldl (fun n c => 16 * n + (hexValue? c).getD 0) 0

end GroundLink.Text
