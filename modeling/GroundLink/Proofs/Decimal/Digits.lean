import GroundLink.Decimal.Style
import Mathlib.Algebra.Group.Nat.Defs
import Mathlib.Data.List.Basic
import Mathlib.Tactic.Lemma

/-!
# Decimal digits

The digits of a natural number are digits, and the number can be read off them.
-/

namespace GroundLink.Decimal

lemma ne_of_isDigit {c d : Char} (hc : c.isDigit = true) (hd : d.isDigit = false) : c ≠ d := by
  rintro rfl
  cases hc.symm.trans hd

lemma toNat_of_isDigit {c : Char} (hc : c.isDigit = true) : 48 ≤ c.toNat ∧ c.toNat ≤ 57 := by
  simpa [Char.isDigit, UInt32.le_iff_toNat_le] using hc

lemma le_ofDigitChars (ds : List Char) (n : Nat) : n ≤ Nat.ofDigitChars 10 ds n := by
  induction ds generalizing n with
  | nil => exact Nat.le_refl n
  | cons c ds ih =>
    rw [Nat.ofDigitChars_cons]
    exact Nat.le_trans (by omega) (ih _)

lemma mul_pow_le_ofDigitChars (ds : List Char) (n : Nat) :
    n * 10 ^ ds.length ≤ Nat.ofDigitChars 10 ds n := by
  induction ds generalizing n with
  | nil => exact Nat.le_of_eq (Nat.mul_one n)
  | cons c ds ih =>
    rw [Nat.ofDigitChars_cons, List.length_cons, Nat.pow_succ', ← Nat.mul_assoc, Nat.mul_comm n]
    exact Nat.le_trans (Nat.mul_le_mul_right _ (Nat.le_add_right ..)) (ih _)

/-- Digits behind a number raise it to less than the next one in front of as many digits. -/
lemma ofDigitChars_lt {ds : List Char} (hds : ∀ c ∈ ds, c.isDigit = true) (n : Nat) :
    Nat.ofDigitChars 10 ds n < (n + 1) * 10 ^ ds.length := by
  induction ds generalizing n with
  | nil => exact Nat.lt_of_lt_of_le (Nat.lt_succ_self n) (Nat.le_of_eq (Nat.mul_one _).symm)
  | cons c ds ih =>
    obtain ⟨hc, hds⟩ := List.forall_mem_cons.mp hds
    have hdigit : c.toNat - '0'.toNat < 10 := by
      have hzero : '0'.toNat = 48 := rfl
      have hrange := toNat_of_isDigit hc
      omega
    rw [Nat.ofDigitChars_cons, List.length_cons, Nat.pow_succ', ← Nat.mul_assoc]
    exact Nat.lt_of_lt_of_le (ih hds _) (Nat.mul_le_mul_right _ (by omega))

/-- The number in front of some digits. -/
lemma ofDigitChars_div {ds : List Char} (hds : ∀ c ∈ ds, c.isDigit = true) (n : Nat) :
    Nat.ofDigitChars 10 ds n / 10 ^ ds.length = n :=
  Nat.div_eq_of_lt_le (mul_pow_le_ofDigitChars ds n) (ofDigitChars_lt hds n)

lemma isDigit_digitsOf (n : Nat) : ∀ c ∈ digitsOf n, c.isDigit = true := fun _ hc =>
  Nat.isDigit_of_mem_toDigits (by decide) (by decide) hc

lemma digitsOf_ne_nil (n : Nat) : digitsOf n ≠ [] := Nat.toDigits_ne_nil

lemma digitsOf_cons (n : Nat) : ∃ c cs, digitsOf n = c :: cs ∧ c.isDigit = true := by
  obtain ⟨c, cs, hdigits⟩ := List.exists_cons_of_ne_nil (digitsOf_ne_nil n)
  exact ⟨c, cs, hdigits, isDigit_digitsOf n c (hdigits ▸ .head _)⟩

@[simp] lemma ofDigitChars_digitsOf (n : Nat) : Nat.ofDigitChars 10 (digitsOf n) 0 = n :=
  Nat.ofDigitChars_ten_toDigits

/-- The first digit of a number is none that could be left out. -/
lemma head?_digitsOf {n : Nat} (hn : n ≠ 0) : (digitsOf n).head? ≠ some '0' := by
  induction n using Nat.strongRecOn with
  | ind n ih =>
    rw [digitsOf, Nat.toDigits_eq_if (by decide)]
    split
    case isTrue hlt =>
      intro h
      exact hn (Nat.digitChar_eq_zero.mp (Option.some.inj h))
    case isFalse hge =>
      rw [List.head?_append_of_ne_nil _ Nat.toDigits_ne_nil]
      exact ih (n / 10) (by omega) (by omega)

/-- A number has at most as many digits as the power of ten that it reaches. -/
lemma pow_length_le {n : Nat} (hn : n ≠ 0) : 10 ^ ((digitsOf n).length - 1) ≤ n := by
  obtain ⟨c, cs, hdigits, hc⟩ := digitsOf_cons n
  have hfirst : c ≠ '0' := fun heq => head?_digitsOf hn (by rw [hdigits, heq]; rfl)
  have hpos : 0 < c.toNat - '0'.toNat := by
    have hzero : '0'.toNat = 48 := rfl
    have hrange := toNat_of_isDigit hc
    have hne : c.toNat ≠ '0'.toNat := fun heq => hfirst (Char.toNat_inj.mp heq)
    omega
  have hvalue : Nat.ofDigitChars 10 cs (c.toNat - '0'.toNat) = n := by
    have h := ofDigitChars_digitsOf n
    rw [hdigits, Nat.ofDigitChars_cons, Nat.mul_zero, Nat.zero_add] at h
    exact h
  rw [hdigits, List.length_cons, Nat.add_sub_cancel]
  calc 10 ^ cs.length ≤ (c.toNat - '0'.toNat) * 10 ^ cs.length := Nat.le_mul_of_pos_left _ hpos
    _ ≤ Nat.ofDigitChars 10 cs (c.toNat - '0'.toNat) := mul_pow_le_ofDigitChars cs _
    _ = n := hvalue

/-- No number begins with a digit that could be left out. -/
lemma digitsOf_ne_zero_cons (n : Nat) (d : Char) (ds : List Char) :
    digitsOf n ≠ '0' :: d :: ds := by
  intro hdigits
  by_cases hn : n = 0
  · subst hn
    cases hdigits
  · exact head?_digitsOf hn (congrArg List.head? hdigits)

end GroundLink.Decimal
