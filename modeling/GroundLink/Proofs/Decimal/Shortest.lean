import GroundLink.Decimal.Shortest
import GroundLink.Proofs.Decimal.Rounding

/-!
# How large the shortest decimal is

The shortest decimal of a number rounds to the number, so that it exceeds it by half a unit in the
last place at most.
-/

namespace GroundLink.Decimal

/-- The value of a decimal. -/
def Scientific.value (s : Scientific) : ℚ := s.digits * 10 ^ s.exponent

lemma Scientific.trim_value (fuel : Nat) (s : Scientific) : (s.trim fuel).value = s.value := by
  induction fuel generalizing s with
  | zero => rfl
  | succ fuel ih =>
    rw [trim]
    split
    case isTrue hzero =>
      have hdigits : (s.digits : ℚ) = (s.digits / 10 : Nat) * 10 := by
        exact_mod_cast (Nat.div_mul_cancel (Nat.dvd_of_mod_eq_zero hzero.1)).symm
      rw [ih, value, value, hdigits, zpow_add₀ (by norm_num), zpow_one]
      ring
    case isFalse => rfl

lemma ten_zpow (e : Int) :
    (10 : ℚ) ^ e = (Nat.pow 10 e.toNat : Nat) / (Nat.pow 10 (-e).toNat : Nat) := by
  rcases Int.eq_nat_or_neg e with ⟨n, rfl | rfl⟩
  · simp
  · simp

namespace RoundingInterval

variable {i : RoundingInterval} {s : Scientific} {num den : Nat}

lemma le_high (h : i.contains num den = true) : num * i.den ≤ i.high * den := by
  rw [contains] at h
  split at h
  · exact (of_decide_eq_true h).2
  · exact Nat.le_of_lt (of_decide_eq_true h).2

lemma value_le (hden : 0 < i.den) {digits : Nat} {e : Int}
    (h : i.contains (digits * Nat.pow 10 e.toNat) (Nat.pow 10 (-e).toNat) = true) :
    (⟨digits, e⟩ : Scientific).value ≤ i.high / i.den := by
  have hle := le_high h
  have hpos : (0 : ℚ) < i.den := Nat.cast_pos.mpr hden
  have hdown : (0 : ℚ) < (Nat.pow 10 (-e).toNat : Nat) :=
    Nat.cast_pos.mpr (Nat.pow_pos (by decide))
  rw [Scientific.value, ten_zpow, ← mul_div_assoc, div_le_div_iff₀ hdown hpos]
  exact_mod_cast hle

lemma onGrid?_le (hden : 0 < i.den) {e : Int} (h : i.onGrid? e = some s) :
    s.value ≤ i.high / i.den := by
  simp only [onGrid?] at h
  split_ifs at h
  all_goals
    cases h
    exact value_le hden ‹_›

lemma search_le (hden : 0 < i.den) {last : Int} {count : Nat}
    (h : i.search last count = some s) : s.value ≤ i.high / i.den := by
  induction count with
  | zero => cases h
  | succ count ih =>
    rw [search] at h
    cases hgrid : i.onGrid? (last + count) with
    | none =>
      rw [hgrid] at h
      exact ih h
    | some s' =>
      rw [hgrid] at h
      cases h
      exact onGrid?_le hden hgrid

end RoundingInterval

/-- The shortest decimal of a number exceeds it by half a unit in the last place at most. -/
theorem BinaryFormat.shortest_le (f : BinaryFormat) (v : Magnitude) :
    (f.shortest v).value ≤ (v.significand + 1 / 2) * 2 ^ v.exponent := by
  have hpos : (0 : ℚ) < 2 ^ v.exponent := zpow_pos (by norm_num) _
  have hzero : (0 : ℚ) ≤ (v.significand + 1 / 2) * 2 ^ v.exponent := by positivity
  rw [shortest]
  split
  case isTrue =>
    refine le_trans (le_of_eq ?_) hzero
    rw [Scientific.value, Nat.cast_zero, zero_mul]
  case isFalse =>
    have hden : 0 < (f.interval v).den := by
      change 0 < 1 <<< _
      rw [Nat.one_shiftLeft]
      exact Nat.two_pow_pos _
    have hhigh : ((f.interval v).high : ℚ) / (f.interval v).den
        = (v.significand + 1 / 2) * 2 ^ v.exponent := by
      have h := div_shiftLeft (4 * v.significand + 2) 1 (-(v.exponent - 2))
      rw [neg_neg, zpow_neg, zpow_sub₀ (by norm_num), Nat.cast_one, div_one, div_inv_eq_mul] at h
      rw [show ((f.interval v).high : ℚ) / (f.interval v).den = _ from h]
      push_cast
      ring
    rw [Scientific.trim_value]
    cases hfound : (f.interval v).search ((f.interval v).leading - 17) 18 with
    | none =>
      refine le_trans (le_of_eq ?_) hzero
      rw [Option.getD_none, Scientific.value, Nat.cast_zero, zero_mul]
    | some s => exact le_trans (RoundingInterval.search_le hden hfound) (le_of_eq hhigh)

end GroundLink.Decimal
