import GroundLink.Json.Number
import GroundLink.Proofs.Decimal.Digits
import GroundLink.Proofs.Decimal.Shortest

/-!
# Decimals in range

While a decimal is read in floating point it is rounded three times at most: its digits, the power
of ten, and their product or quotient. Whatever comes out is a double, and it does come out unless
the decimal lies within a few units of the greatest double, or beyond.
-/

namespace GroundLink.Json

open Decimal

variable {v p w : Magnitude}

/-! ### Doubles -/

lemma has_of_double {num den : Nat} (hden : 0 < den) (h : double.nearest num den = some v) :
    double.Has v :=
  BinaryFormat.has_of_nearest (by decide) (by decide) hden h

lemma double_limit : double.limit = (2 ^ 53 - 1 / 2) * 2 ^ 971 := by
  rw [BinaryFormat.limit]
  norm_num [double]

lemma has_zero : double.Has ⟨0, double.lowest⟩ :=
  ⟨by decide, Int.le_refl _, by decide, .inr rfl⟩

lemma size_lt_limit : ((UInt64.size : Nat) : ℚ) < double.limit := by
  have hpower : (1 : ℚ) ≤ 2 ^ 959 := one_le_pow₀ (by norm_num)
  have hsize : ((UInt64.size : Nat) : ℚ) = 2 ^ 64 := by norm_num [UInt64.size]
  rw [double_limit, hsize, show 971 = 12 + 959 from rfl, pow_add]
  generalize (2 : ℚ) ^ 959 = power at hpower ⊢
  linarith

/-- An integer below the limit as the nearest double. -/
lemma nearest_natural {n : Nat} (hn : 0 < n) (h : (n : ℚ) < double.limit) :
    ∃ v, double.nearest n 1 = some v ∧ double.Has v ∧ 1 ≤ v.value
      ∧ v.value ≤ n * (1 + 1 / 2 ^ 53) := by
  have hwhole : (n : ℚ) / (1 : Nat) = n := by rw [Nat.cast_one, div_one]
  have hone : (1 : ℚ) ≤ n / (1 : Nat) := by
    rw [hwhole]
    exact_mod_cast hn
  obtain ⟨v, hv⟩ := Option.isSome_iff_exists.mp
    (double.nearest_isSome (by decide) (by decide) Nat.one_pos (hwhole.symm ▸ h))
  have hlarge : (2 : ℚ) ^ (double.lowest + double.precision - 1) ≤ n / (1 : Nat) :=
    le_trans (zpow_le_one_of_nonpos₀ (by norm_num) (by decide)) hone
  have hle := BinaryFormat.nearest_value_le Nat.one_pos hlarge hv
  rw [hwhole] at hle
  exact ⟨v, hv, has_of_double Nat.one_pos hv,
    BinaryFormat.one_le_nearest (by decide) (by decide) Nat.one_pos hone hv, hle⟩

/-- An integer of 64 bits is rounded to a finite number. -/
lemma ofFloat_nearest_isSome (negative : Bool) {n : Nat} (hn : n < UInt64.size) :
    (ofFloat (toFloat negative (double.nearest n 1))).2.isSome := by
  rw [ofFloat_toFloat negative fun _ => has_of_double Nat.one_pos,
    double.nearest_isSome_iff (by decide) (by decide) Nat.one_pos, Nat.cast_one, div_one]
  exact lt_trans (Nat.cast_lt.mpr hn) size_lt_limit

lemma powerOfTen_eq (e : Nat) : powerOfTen e = (double.nearest (10 ^ e) 1).getD ⟨0, 0⟩ := rfl

/-- The powers of ten up to the greatest that is a double. -/
lemma powerOfTen_spec {e : Nat} (he : e ≤ greatestPower) :
    double.Has (powerOfTen e) ∧ 1 ≤ (powerOfTen e).value
      ∧ (powerOfTen e).value ≤ 10 ^ e * (1 + 1 / 2 ^ 53) := by
  have hlimit : ((10 ^ e : Nat) : ℚ) < double.limit := by
    have hgreatest : 10 ^ greatestPower < (2 ^ 53 - 1) * 2 ^ 971 := by decide +kernel
    have hpower : 10 ^ e < (2 ^ 53 - 1) * 2 ^ 971 :=
      lt_of_le_of_lt (Nat.pow_le_pow_right (by decide) he) hgreatest
    have hcast : ((10 ^ e : Nat) : ℚ) < ((2 ^ 53 - 1) * 2 ^ 971 : Nat) := Nat.cast_lt.mpr hpower
    rw [double_limit]
    refine lt_trans hcast ?_
    rw [Nat.cast_mul, Nat.cast_pow 2 971]
    exact mul_lt_mul_of_pos_right (by norm_num) (by positivity)
  obtain ⟨v, hv, hhas, hone, hle⟩ := nearest_natural (Nat.pow_pos (by decide)) hlimit
  rw [powerOfTen_eq, hv]
  exact ⟨hhas, hone, by simpa using hle⟩

/-! ### Products and quotients -/

lemma num_pos (hp : 1 ≤ p.value) : 0 < p.num := by
  rcases Nat.eq_zero_or_pos p.num with hzero | hpos
  · have hvalue := p.num_div_den
    rw [hzero, Nat.cast_zero, zero_div] at hvalue
    linarith
  · exact hpos

lemma product_isSome (h : v.value * p.value < double.limit) : (product v p).isSome := by
  refine double.nearest_isSome (by decide) (by decide) (Nat.mul_pos v.den_pos p.den_pos) ?_
  rwa [Nat.cast_mul, Nat.cast_mul, mul_div_mul_comm, v.num_div_den, p.num_div_den]

lemma has_of_product (h : product v p = some w) : double.Has w :=
  has_of_double (Nat.mul_pos v.den_pos p.den_pos) h

lemma quotient_isSome (hv : double.Has v) (hp : 1 ≤ p.value) : (quotient v p).isSome := by
  refine double.nearest_isSome (by decide) (by decide) (Nat.mul_pos v.den_pos (num_pos hp)) ?_
  have hvalue : ((v.num * p.den : Nat) : ℚ) / (v.den * p.num : Nat) = v.value / p.value := by
    rw [Nat.cast_mul, Nat.cast_mul, mul_div_mul_comm, v.num_div_den, ← inv_div, p.num_div_den,
      div_eq_mul_inv]
  rw [hvalue]
  exact lt_of_le_of_lt (div_le_self v.value_nonneg hp) (hv.value_lt (by decide))

lemma has_of_quotient (hp : 1 ≤ p.value) (h : quotient v p = some w) : double.Has w :=
  has_of_double (Nat.mul_pos v.den_pos (num_pos hp)) h

/-- Dividing by a power of ten always gives a double. -/
lemma divideByPower_spec (hv : double.Has v) (fuel e : Nat) :
    ∃ w, divideByPower fuel v e = some w ∧ double.Has w := by
  have hstep : ∀ {v}, double.Has v → ∀ {e}, e ≤ greatestPower →
      ∃ w, quotient v (powerOfTen e) = some w ∧ double.Has w := by
    intro v hv e he
    have hone := (powerOfTen_spec he).2.1
    obtain ⟨w, hw⟩ := Option.isSome_iff_exists.mp (quotient_isSome hv hone)
    exact ⟨w, hw, has_of_quotient hone hw⟩
  induction fuel generalizing v e with
  | zero => exact ⟨v, rfl, hv⟩
  | succ fuel ih =>
    rw [divideByPower]
    split
    case isTrue he => exact hstep hv he
    case isFalse =>
      obtain ⟨w, hw, hhas⟩ := hstep hv (Nat.le_refl _)
      rw [hw]
      exact ih hhas _

/-! ### Significand and exponent -/

/-- What is read from a significand and an exponent is a double. -/
theorem has_of_ofParts {significand : Nat} {exponent : Int}
    (h : ofParts significand exponent = some w) : double.Has w := by
  obtain ⟨v, hv, h⟩ := Option.bind_eq_some_iff.mp h
  split at h
  case isTrue =>
    cases h
    exact has_zero
  case isFalse =>
    split at h
    case isTrue =>
      split at h
      case isTrue => cases h
      case isFalse => exact has_of_product h
    case isFalse =>
      obtain ⟨w', hw', hhas⟩ :=
        divideByPower_spec (has_of_double Nat.one_pos hv) 3 exponent.natAbs
      rw [hw'] at h
      cases h
      exact hhas

/-- How far a decimal may reach so that rounding it thrice leaves it in range. -/
def readable : ℚ := (2 ^ 53 - 4) * 2 ^ 971

lemma readable_lt_pow : readable < 2 ^ 1024 := by
  have hpos : (0 : ℚ) < 2 ^ 971 := by positivity
  rw [readable, show 1024 = 53 + 971 from rfl, pow_add]
  exact mul_lt_mul_of_pos_right (by norm_num) hpos

/-- A power of ten in range is a double. -/
lemma le_greatestPower {significand e : Nat} (hpos : 0 < significand)
    (h : (significand : ℚ) * 10 ^ e ≤ readable) : e ≤ greatestPower := by
  by_contra hlarge
  have hpower : 2 ^ 1024 < 10 ^ (greatestPower + 1) := by decide +kernel
  have hnat : 2 ^ 1024 < significand * 10 ^ e :=
    calc 2 ^ 1024 < 10 ^ (greatestPower + 1) := hpower
      _ ≤ 10 ^ e := Nat.pow_le_pow_right (by decide) (Nat.not_le.mp hlarge)
      _ ≤ significand * 10 ^ e := Nat.le_mul_of_pos_left _ hpos
  have hcast : ((2 ^ 1024 : Nat) : ℚ) < (significand * 10 ^ e : Nat) := Nat.cast_lt.mpr hnat
  rw [Nat.cast_mul, Nat.cast_pow 10, Nat.cast_pow 2] at hcast
  exact absurd (lt_trans readable_lt_pow hcast) (not_lt.mpr h)

lemma readable_lt : readable * (1 + 1 / 2 ^ 53) ^ 2 < double.limit := by
  have hpos : (0 : ℚ) < 2 ^ 971 := by positivity
  rw [readable, double_limit, mul_right_comm]
  exact mul_lt_mul_of_pos_right (by norm_num) hpos

/-- A decimal is in range, if it stays a few units below the greatest double. -/
theorem ofParts_isSome {significand : Nat} {exponent : Int} (hsize : significand < UInt64.size)
    (h : (significand : ℚ) * 10 ^ exponent ≤ readable) :
    (ofParts significand exponent).isSome := by
  rcases Nat.eq_zero_or_pos significand with rfl | hpos
  · rfl
  · have hlimit : (significand : ℚ) < double.limit :=
      lt_trans (Nat.cast_lt.mpr hsize) size_lt_limit
    obtain ⟨v, hv, hhas, hone, hle⟩ := nearest_natural hpos hlimit
    have hsignificand : v.significand ≠ 0 := by
      intro hzero
      rw [Magnitude.value, hzero, Nat.cast_zero, zero_mul] at hone
      exact absurd hone (by norm_num)
    rw [ofParts, hv]
    change (if v.significand = 0 then _ else _ : Option Magnitude).isSome
    rw [if_neg hsignificand]
    split
    case isTrue hexponent =>
      have hnatural : (10 : ℚ) ^ exponent = 10 ^ exponent.toNat := by
        rw [← zpow_natCast, Int.toNat_of_nonneg hexponent]
      rw [hnatural] at h
      have hgreatest := le_greatestPower hpos h
      obtain ⟨-, -, hpower⟩ := powerOfTen_spec hgreatest
      rw [if_neg (Nat.not_lt.mpr hgreatest)]
      refine product_isSome ?_
      calc v.value * (powerOfTen exponent.toNat).value
          ≤ significand * (1 + 1 / 2 ^ 53) * (10 ^ exponent.toNat * (1 + 1 / 2 ^ 53)) :=
            mul_le_mul hle hpower (Magnitude.value_nonneg _) (by positivity)
        _ = significand * 10 ^ exponent.toNat * (1 + 1 / 2 ^ 53) ^ 2 := by ring
        _ ≤ readable * (1 + 1 / 2 ^ 53) ^ 2 := mul_le_mul_of_nonneg_right h (by positivity)
        _ < double.limit := readable_lt
    case isFalse =>
      obtain ⟨w, hw, -⟩ := divideByPower_spec hhas 3 exponent.natAbs
      rw [hw]
      rfl

lemma ofParts_isSome_of_nonpos {significand : Nat} {exponent : Int}
    (hsize : significand < UInt64.size) (hexponent : exponent ≤ 0) :
    (ofParts significand exponent).isSome := by
  have hsize' : (significand : ℚ) ≤ 2 ^ 64 := by
    have hcast : (significand : ℚ) ≤ (2 ^ 64 : Nat) := Nat.cast_le.mpr hsize.le
    rwa [Nat.cast_pow, Nat.cast_ofNat] at hcast
  have hpower : (10 : ℚ) ^ exponent ≤ 1 := zpow_le_one_of_nonpos₀ (by norm_num) hexponent
  have hreadable : (2 : ℚ) ^ 64 ≤ readable := by
    have hpower : (1 : ℚ) ≤ 2 ^ 959 := one_le_pow₀ (by norm_num)
    rw [readable, show 971 = 12 + 959 from rfl, pow_add]
    generalize (2 : ℚ) ^ 959 = power at hpower ⊢
    linarith
  refine ofParts_isSome hsize (le_trans ?_ hreadable)
  exact le_trans (mul_le_of_le_one_right (Nat.cast_nonneg _) hpower) hsize'

/-! ### Shortest decimals -/

/-- A decimal is read as a double, of however many of its digits as fit 64 bits, and its leading
digit has an exponent of 32 bits. -/
structure InRange (s : Scientific) : Prop where
  parts : ∀ j : Nat, s.digits / 10 ^ j < UInt64.size → (s.digits < UInt64.size → j = 0) →
    (ofParts (s.digits / 10 ^ j) (s.exponent + j)).isSome
  leading : s.digits ≠ 0 →
    s.exponent + (digitsOf s.digits).length - 1 ≤ Int32.maxValue.toInt

/-- Cutting digits off a decimal makes it no greater. -/
lemma cut_le (s : Scientific) (j : Nat) :
    ((s.digits / 10 ^ j : Nat) : ℚ) * 10 ^ (s.exponent + j) ≤ s.value := by
  have hpos : (0 : ℚ) < 10 ^ s.exponent := zpow_pos (by norm_num) _
  have hcut : ((s.digits / 10 ^ j : Nat) : ℚ) * 10 ^ j ≤ s.digits := by
    exact_mod_cast Nat.div_mul_le_self s.digits (10 ^ j)
  calc ((s.digits / 10 ^ j : Nat) : ℚ) * 10 ^ (s.exponent + j)
      = ((s.digits / 10 ^ j : Nat) : ℚ) * 10 ^ j * 10 ^ s.exponent := by
        rw [zpow_add₀ (by norm_num), zpow_natCast]
        ring
    _ ≤ s.value := mul_le_mul_of_nonneg_right hcut hpos.le

/-- The leading digit of a decimal that is less than a number of 1024 bits. -/
lemma leading_le {s : Scientific} (hs : s.digits ≠ 0) (h : s.value < 2 ^ 1024) :
    s.exponent + (digitsOf s.digits).length - 1 ≤ greatestPower := by
  by_contra hlarge
  have hpower : 2 ^ 1024 < 10 ^ (greatestPower + 1) := by decide +kernel
  have hlength : 0 < (digitsOf s.digits).length :=
    List.length_pos_iff.mpr (digitsOf_ne_nil _)
  have hcast : ((2 ^ 1024 : Nat) : ℚ) < (10 ^ (greatestPower + 1) : Nat) :=
    Nat.cast_lt.mpr hpower
  have hdigits : ((10 ^ ((digitsOf s.digits).length - 1) : Nat) : ℚ) ≤ s.digits :=
    Nat.cast_le.mpr (pow_length_le hs)
  have hpos : (0 : ℚ) < 10 ^ s.exponent := zpow_pos (by norm_num) _
  have hvalue : (10 : ℚ) ^ (greatestPower + 1) ≤ s.value :=
    calc (10 : ℚ) ^ (greatestPower + 1) = 10 ^ ((greatestPower + 1 : Nat) : Int) :=
          (zpow_natCast ..).symm
      _ ≤ 10 ^ ((((digitsOf s.digits).length - 1 : Nat) : Int) + s.exponent) :=
          zpow_le_zpow_right₀ (by norm_num) (by omega)
      _ = ((10 ^ ((digitsOf s.digits).length - 1) : Nat) : ℚ) * 10 ^ s.exponent := by
          rw [zpow_add₀ (by norm_num), zpow_natCast, Nat.cast_pow, Nat.cast_ofNat]
      _ ≤ s.value := mul_le_mul_of_nonneg_right hdigits hpos.le
  rw [Nat.cast_pow, Nat.cast_pow] at hcast
  exact absurd (lt_of_lt_of_le hcast (by exact_mod_cast hvalue)) (not_lt.mpr h.le)

lemma inRange_of_le {s : Scientific} (h : s.value ≤ readable) : InRange s where
  parts j hsize _ := ofParts_isSome hsize (le_trans (cut_le s j) h)
  leading hs :=
    le_trans (leading_le hs (lt_of_le_of_lt h readable_lt_pow)) (by decide)

lemma le_readable {significand : Nat} {exponent : Int} (hsignificand : significand < 2 ^ 53)
    (hexponent : exponent ≤ 970) :
    ((significand : ℚ) + 1 / 2) * 2 ^ exponent ≤ readable := by
  have hcast : ((significand + 1 : Nat) : ℚ) ≤ (2 ^ 53 : Nat) := Nat.cast_le.mpr hsignificand
  have hexponent : (2 : ℚ) ^ exponent ≤ 2 ^ 970 := by
    rw [← zpow_natCast]
    exact zpow_le_zpow_right₀ (by norm_num) hexponent
  have hpower : (0 : ℚ) < 2 ^ 970 := pow_pos (by norm_num) _
  have hnonneg : (0 : ℚ) ≤ significand := Nat.cast_nonneg _
  push_cast at hcast
  rw [readable, pow_succ' (2 : ℚ) 970, ← mul_assoc]
  exact mul_le_mul (by linarith) hexponent (zpow_nonneg (by norm_num) _) (by norm_num)

/-- The four greatest doubles. -/
lemma greatest_inRange : ∀ k < 4,
    (double.shortest ⟨2 ^ 53 - 1 - k, 971⟩).digits < UInt64.size
      ∧ (double.shortest ⟨2 ^ 53 - 1 - k, 971⟩).exponent
        + (digitsOf (double.shortest ⟨2 ^ 53 - 1 - k, 971⟩).digits).length - 1
          ≤ Int32.maxValue.toInt
      ∧ (ofParts (double.shortest ⟨2 ^ 53 - 1 - k, 971⟩).digits
        (double.shortest ⟨2 ^ 53 - 1 - k, 971⟩).exponent).isSome := by
  decide +kernel

/-- The shortest decimal of a double is in range. The four greatest doubles lie too close to the
limit for the bound on what rounding adds, and are read one by one. -/
theorem shortest_inRange (hv : double.Has v) : InRange (double.shortest v) := by
  have hhighest : v.exponent ≤ 971 := hv.le_highest
  have hlt : v.significand < 2 ^ 53 := hv.significand_lt
  by_cases hgreatest : v.exponent = 971 ∧ 2 ^ 53 - 5 < v.significand
  · obtain ⟨k, hk, rfl⟩ : ∃ k < 4, v = ⟨2 ^ 53 - 1 - k, 971⟩ := by
      refine ⟨2 ^ 53 - 1 - v.significand, by omega, ?_⟩
      rw [← hgreatest.1, Nat.sub_sub_self (by omega)]
    obtain ⟨hsize, hleading, hparts⟩ := greatest_inRange k hk
    refine ⟨fun j _ hj => ?_, fun _ => hleading⟩
    obtain rfl := hj hsize
    rwa [Nat.pow_zero, Nat.div_one, Nat.cast_zero, Int.add_zero]
  · refine inRange_of_le (le_trans (double.shortest_le v) ?_)
    have hpos : (0 : ℚ) < 2 ^ v.exponent := zpow_pos (by norm_num) _
    rcases eq_or_lt_of_le hhighest with heq | hbelow
    · have hsignificand : v.significand ≤ 2 ^ 53 - 5 :=
        Nat.not_lt.mp fun h => hgreatest ⟨heq, h⟩
      have hcast : ((v.significand + 5 : Nat) : ℚ) ≤ (2 ^ 53 : Nat) :=
        Nat.cast_le.mpr (by omega)
      have hpower : (0 : ℚ) < 2 ^ 971 := by positivity
      rw [heq, readable, show (2 : ℚ) ^ (971 : Int) = 2 ^ 971 from zpow_natCast 2 971]
      refine mul_le_mul_of_nonneg_right ?_ hpower.le
      push_cast at hcast
      linarith
    · exact le_readable hlt (by omega)

/-- The shortest decimal of a 32-bit number is in range. -/
theorem shortest_inRange32 (hv : single.Has v) : InRange (single.shortest v) := by
  have hhighest : v.exponent ≤ 104 := hv.le_highest
  have hlt : v.significand < 2 ^ 24 := hv.significand_lt
  exact inRange_of_le (le_trans (single.shortest_le v) (le_readable (by omega) (by omega)))

end GroundLink.Json
