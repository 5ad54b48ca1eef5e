import GroundLink.Proofs.Decimal.Digits
import GroundLink.Text.Blank
import GroundLink.Text.Integer

/-!
# Integers that are read from text

The decimal form of an integer, whatever blanks are around it, is read as the integer where it lies
in the range that is asked of it, and refused where it does not.
-/

namespace GroundLink.Text

open Decimal

variable {before after text ds : List Char}

/-! ### Blanks -/

lemma isBlank_of_isDigit {c : Char} (h : c.isDigit = true) : isBlank c = false := by
  have hrange := toNat_of_isDigit h
  simp only [isBlank, Bool.or_eq_false_iff, Bool.and_eq_false_iff, decide_eq_false_iff_not]
  omega

lemma dropBlanks_append (hbefore : ∀ c ∈ before, isBlank c = true)
    (hfirst : ∀ c ∈ text.head?, isBlank c = false) : dropBlanks (before ++ text) = text := by
  rw [dropBlanks, List.dropWhile_append_of_pos hbefore]
  cases text with
  | nil => rfl
  | cons c cs => exact List.dropWhile_cons_of_neg (Bool.eq_false_iff.mp (hfirst c rfl))

/-- Blanks are cut off a text that neither begins nor ends with one. -/
lemma trimBlanks_append (hbefore : ∀ c ∈ before, isBlank c = true)
    (hafter : ∀ c ∈ after, isBlank c = true) (hne : text ≠ [])
    (hfirst : ∀ c ∈ text.head?, isBlank c = false)
    (hlast : ∀ c ∈ text.getLast?, isBlank c = false) :
    trimBlanks (before ++ text ++ after) = text := by
  have hfront : dropBlanks (before ++ (text ++ after)) = text ++ after := by
    refine dropBlanks_append hbefore ?_
    rwa [List.head?_append_of_ne_nil _ hne]
  have hback : dropBlanks (after.reverse ++ text.reverse) = text.reverse := by
    refine dropBlanks_append (fun c hc => hafter c (List.mem_reverse.mp hc)) ?_
    rwa [List.head?_reverse]
  rw [trimBlanks, List.append_assoc, hfront, List.reverse_append, hback, List.reverse_reverse]

lemma isBlank_intChars (n : Int) : ∀ c ∈ intChars n, isBlank c = false := by
  intro c hc
  rw [intChars] at hc
  split at hc
  · rcases List.mem_cons.mp hc with rfl | hc
    · rfl
    · exact isBlank_of_isDigit (isDigit_digitsOf _ c hc)
  · exact isBlank_of_isDigit (isDigit_digitsOf _ c hc)

lemma intChars_ne_nil (n : Int) : intChars n ≠ [] := by
  rw [intChars]
  split
  · nofun
  · exact digitsOf_ne_nil _

lemma trimBlanks_intChars (n : Int) (hbefore : ∀ c ∈ before, isBlank c = true)
    (hafter : ∀ c ∈ after, isBlank c = true) :
    trimBlanks (before ++ intChars n ++ after) = intChars n :=
  trimBlanks_append hbefore hafter (intChars_ne_nil n)
    (fun c hc => isBlank_intChars n c (List.mem_of_head? hc))
    (fun c hc => isBlank_intChars n c (List.mem_of_getLast? hc))

/-! ### Digits -/

/-- Digits are read as their number, as long as it does not pass the limit. -/
lemma readDigits_eq (limit : Nat) (beyond : IntegerFault) (hds : ∀ c ∈ ds, c.isDigit = true)
    {value : Nat} (hvalue : value ≤ limit) :
    readDigits limit beyond ds value
      = if Nat.ofDigitChars 10 ds value ≤ limit then .ok (Nat.ofDigitChars 10 ds value)
        else .error beyond := by
  induction ds generalizing value with
  | nil => exact (if_pos hvalue).symm
  | cons c ds ih =>
    obtain ⟨hc, hds⟩ := List.forall_mem_cons.mp hds
    rw [readDigits, if_pos hc, Nat.ofDigitChars_cons, Nat.mul_comm 10]
    dsimp only
    split
    case isTrue hnext => exact ih hds hnext
    case isFalse hnext =>
      have hpassed := le_ofDigitChars ds (value * 10 + (c.toNat - '0'.toNat))
      rw [if_neg (fun hle => hnext (Nat.le_trans hpassed hle))]

lemma readDigits_digitsOf (limit : Nat) (beyond : IntegerFault) (n : Nat) :
    readDigits limit beyond (digitsOf n) 0 = if n ≤ limit then .ok n else .error beyond := by
  rw [readDigits_eq limit beyond (isDigit_digitsOf n) (Nat.zero_le limit), ofDigitChars_digitsOf]

/-! ### Integers -/

lemma readInteger_minus (below above n : Nat) :
    readInteger below above ('-' :: digitsOf n)
      = if below = 0 then .error .badDigit
        else (readDigits below .tooSmall (digitsOf n) 0).map fun m => -(m : Int) := by
  obtain ⟨c, cs, hdigits, -⟩ := digitsOf_cons n
  rw [hdigits]
  rfl

lemma readInteger_digitsOf (below above n : Nat) :
    readInteger below above (digitsOf n)
      = (readDigits above .tooLarge (digitsOf n) 0).map Int.ofNat := by
  obtain ⟨c, cs, hdigits, hc⟩ := digitsOf_cons n
  have hplus : c ≠ '+' := ne_of_isDigit hc rfl
  have hminus : c ≠ '-' := ne_of_isDigit hc rfl
  rw [hdigits, readInteger]
  all_goals simp [hplus, hminus]

/-- An integer is read from its decimal form where it is in the range. -/
theorem readInteger_intChars {below above : Nat} {n : Int} (hlow : -below ≤ n)
    (hhigh : n ≤ above) : readInteger below above (intChars n) = .ok n := by
  rw [intChars]
  split
  case isTrue hneg =>
    have hn : -(n.natAbs : Int) = n := by omega
    rw [readInteger_minus, if_neg (by omega), readDigits_digitsOf, if_pos (by omega)]
    exact congrArg Except.ok hn
  case isFalse hpos =>
    have hn : (n.natAbs : Int) = n := by omega
    rw [readInteger_digitsOf, readDigits_digitsOf, if_pos (by omega)]
    exact congrArg Except.ok hn

/-- An integer is refused where it is not in the range. -/
theorem readInteger_beyond {below above : Nat} {n : Int} (h : ¬(-below ≤ n ∧ n ≤ above)) :
    ∃ fault, readInteger below above (intChars n) = .error fault := by
  rw [intChars]
  split
  case isTrue hneg =>
    rw [readInteger_minus, readDigits_digitsOf]
    split
    case isTrue => exact ⟨_, rfl⟩
    case isFalse =>
      rw [if_neg (by omega)]
      exact ⟨_, rfl⟩
  case isFalse hpos =>
    rw [readInteger_digitsOf, readDigits_digitsOf, if_neg (by omega)]
    exact ⟨_, rfl⟩

end GroundLink.Text
