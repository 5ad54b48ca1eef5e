import GroundLink.Proofs.Decimal.Bits

/-!
# Rounding to a format

The number of a format nearest to a quotient lies off it by at most half a unit in the last place,
and there is one unless the quotient reaches beyond the greatest number of the format by half such a
unit.
-/

namespace GroundLink.Decimal

/-! ### Exact values -/

/-- The value of a magnitude. -/
def Magnitude.value (v : Magnitude) : ℚ := v.significand * 2 ^ v.exponent

lemma div_shiftLeft (num den : Nat) (e : Int) :
    ((num <<< (-e).toNat : Nat) : ℚ) / ((den <<< e.toNat : Nat) : ℚ) = num / den / 2 ^ e := by
  have h2 : (2 : ℚ) ≠ 0 := by norm_num
  rw [Nat.shiftLeft_eq, Nat.shiftLeft_eq]
  push_cast
  rcases le_total 0 e with he | he
  · have hnone : (-e).toNat = 0 := by omega
    have hpower : (2 : ℚ) ^ e = 2 ^ e.toNat := by
      rw [← zpow_natCast, Int.toNat_of_nonneg he]
    rw [hnone, hpower, pow_zero, mul_one, div_div]
  · have hnone : e.toNat = 0 := by omega
    have hpower : (2 : ℚ) ^ e = (2 ^ (-e).toNat)⁻¹ := by
      rw [← zpow_natCast, Int.toNat_of_nonneg (by omega), zpow_neg, inv_inv]
    rw [hnone, hpower, pow_zero, mul_one, div_inv_eq_mul, mul_div_right_comm]

namespace Magnitude

lemma num_div_den (v : Magnitude) : (v.num : ℚ) / v.den = v.value := by
  have h := div_shiftLeft v.significand 1 (-v.exponent)
  rw [neg_neg, Nat.cast_one, div_one, zpow_neg, div_inv_eq_mul] at h
  exact h

lemma value_nonneg (v : Magnitude) : 0 ≤ v.value :=
  mul_nonneg (Nat.cast_nonneg _) (zpow_nonneg (by norm_num) _)

end Magnitude

/-! ### Quotients -/

/-- A quotient is rounded by at most a half. -/
lemma nearestQuotient_spec (num : Nat) {den : Nat} (hden : 0 < den) :
    (nearestQuotient num den : ℚ) ≤ num / den + 1 / 2
      ∧ (num : ℚ) / den ≤ nearestQuotient num den + 1 / 2 := by
  have hdiv := Nat.div_add_mod num den
  have hmod := Nat.mod_lt num hden
  have hwhole : 2 * (den * nearestQuotient num den) ≤ 2 * num + den
      ∧ 2 * num ≤ 2 * (den * nearestQuotient num den) + den := by
    rw [nearestQuotient]
    split_ifs
    · omega
    · omega
    · rw [Nat.mul_add]
      omega
  have hpos : (0 : ℚ) < den := Nat.cast_pos.mpr hden
  have hupper : 2 * (den * (nearestQuotient num den : ℚ)) ≤ 2 * num + den := by
    exact_mod_cast hwhole.1
  have hlower : 2 * (num : ℚ) ≤ 2 * (den * nearestQuotient num den) + den := by
    exact_mod_cast hwhole.2
  have hnum : (num : ℚ) = den * (num / den) := (mul_div_cancel₀ _ hpos.ne').symm
  rw [hnum] at hupper hlower
  constructor
  · refine le_of_mul_le_mul_left ?_ hpos
    linarith
  · refine le_of_mul_le_mul_left ?_ hpos
    linarith

/-- A quotient that reaches a half behind an odd integer is rounded up. -/
lemma lt_nearestQuotient {num den m : Nat} (hden : 0 < den) (hodd : m % 2 = 1)
    (h : (m : ℚ) + 1 / 2 ≤ num / den) : m < nearestQuotient num den := by
  have hhalf : 2 * (den * m) + den ≤ 2 * num := by
    rw [le_div_iff₀ (Nat.cast_pos.mpr hden)] at h
    have hcast : 2 * (den * (m : ℚ)) + den ≤ 2 * num := by linarith
    exact_mod_cast hcast
  have hdiv := Nat.div_add_mod num den
  have hmod := Nat.mod_lt num hden
  have hle : m ≤ num / den := by
    by_contra hlt
    have hnext : den * (num / den + 1) ≤ den * m := Nat.mul_le_mul_left den (Nat.not_le.mp hlt)
    rw [Nat.mul_succ] at hnext
    omega
  rw [nearestQuotient]
  split_ifs with hless htie
  · -- below the half only a greater quotient will do
    refine lt_of_le_of_ne hle fun heq => ?_
    rw [← heq] at hdiv
    omega
  · exact lt_of_le_of_ne hle fun heq => by omega
  · exact Nat.lt_succ_of_le hle

lemma shiftLeft_lt_iff {num den : Nat} (hden : 0 < den) (place : Int) (bits : Nat) :
    num <<< (-place).toNat < den <<< (place.toNat + bits)
      ↔ (num : ℚ) / den < 2 ^ (place + bits) := by
  have h2 : (0 : ℚ) < 2 := by norm_num
  have hpos : 0 < den <<< place.toNat := by
    rw [Nat.shiftLeft_eq]
    exact Nat.mul_pos hden (Nat.two_pow_pos _)
  have hcast : (0 : ℚ) < ((den <<< place.toNat : Nat) : ℚ) := Nat.cast_pos.mpr hpos
  rw [zpow_add₀ h2.ne', zpow_natCast, mul_comm, ← div_lt_iff₀ (zpow_pos h2 _), ← div_shiftLeft,
    div_lt_iff₀ hcast, Nat.shiftLeft_add, Nat.shiftLeft_eq _ bits, mul_comm]
  exact_mod_cast Iff.rfl

/-- A quotient lies between two powers of two. -/
lemma log2_div {num den : Nat} (hnum : 0 < num) (hden : 0 < den) :
    (2 : ℚ) ^ ((num.log2 : Int) - den.log2 - 1) ≤ num / den
      ∧ (num : ℚ) / den < 2 ^ ((num.log2 : Int) - den.log2 + 1) := by
  have h2 : (2 : ℚ) ≠ 0 := by norm_num
  have hpos : (0 : ℚ) < den := Nat.cast_pos.mpr hden
  have hnumLow : (2 : ℚ) ^ (num.log2 : Int) ≤ num := by
    rw [zpow_natCast]
    exact_mod_cast Nat.log2_self_le hnum.ne'
  have hnumHigh : (num : ℚ) < 2 ^ ((num.log2 : Int) + 1) := by
    rw [← Nat.cast_succ, zpow_natCast]
    exact_mod_cast Nat.lt_log2_self
  have hdenLow : (2 : ℚ) ^ (den.log2 : Int) ≤ den := by
    rw [zpow_natCast]
    exact_mod_cast Nat.log2_self_le hden.ne'
  have hdenHigh : (den : ℚ) < 2 ^ ((den.log2 : Int) + 1) := by
    rw [← Nat.cast_succ, zpow_natCast]
    exact_mod_cast Nat.lt_log2_self
  constructor
  · rw [le_div_iff₀ hpos]
    calc (2 : ℚ) ^ ((num.log2 : Int) - den.log2 - 1) * den
        ≤ 2 ^ ((num.log2 : Int) - den.log2 - 1) * 2 ^ ((den.log2 : Int) + 1) :=
          mul_le_mul_of_nonneg_left hdenHigh.le (zpow_nonneg (by norm_num) _)
      _ = 2 ^ (num.log2 : Int) := by rw [← zpow_add₀ h2]; congr 1; omega
      _ ≤ num := hnumLow
  · rw [div_lt_iff₀ hpos]
    calc (num : ℚ) < 2 ^ ((num.log2 : Int) + 1) := hnumHigh
      _ = 2 ^ ((num.log2 : Int) - den.log2 + 1) * 2 ^ (den.log2 : Int) := by
          rw [← zpow_add₀ h2]; congr 1; omega
      _ ≤ 2 ^ ((num.log2 : Int) - den.log2 + 1) * den :=
          mul_le_mul_of_nonneg_left hdenLow (zpow_nonneg (by norm_num) _)

namespace BinaryFormat

variable {f : BinaryFormat} {num den : Nat}

/-! ### Places -/

lemma lowest_le_placeOf : f.lowest ≤ f.placeOf num den := by
  simp only [placeOf]
  split <;> omega

/-- The last place of a quotient leaves it at most as many bits as the format has, and exactly as
many unless it is the least place. -/
lemma placeOf_spec (hnum : 0 < num) (hden : 0 < den) :
    (num : ℚ) / den < 2 ^ (f.placeOf num den + f.precision)
      ∧ (f.placeOf num den = f.lowest
        ∨ (2 : ℚ) ^ (f.placeOf num den + f.precision - 1) ≤ num / den) := by
  obtain ⟨hlow, hhigh⟩ := log2_div hnum hden
  have hone : (1 : ℚ) < 2 := by norm_num
  let guess := (num.log2 : Int) - den.log2 - f.precision
  let place := max f.lowest guess
  have hfits := @shiftLeft_lt_iff num _ hden place f.precision
  have hplace : f.placeOf num den
      = if (num : ℚ) / den < 2 ^ (place + f.precision) then place else place + 1 := by
    simp only [placeOf, ← hfits]
    rfl
  rw [hplace]
  split
  case isTrue hlt =>
    refine ⟨hlt, ?_⟩
    rcases le_total guess f.lowest with hle | hle
    · exact .inl (max_eq_left hle)
    · refine .inr (le_trans (zpow_le_zpow_right₀ hone.le ?_) hlow)
      have : place = guess := max_eq_right hle
      omega
  case isFalse hge =>
    refine ⟨lt_of_lt_of_le hhigh (zpow_le_zpow_right₀ hone.le ?_), .inr ?_⟩
    · have : guess ≤ place := le_max_right ..
      omega
    · refine le_trans (zpow_le_zpow_right₀ hone.le ?_) (not_lt.mp hge)
      omega

/-! ### Carrying -/

/-- A significand in its place, where one that is too long by a bit has been made shorter. -/
def carried (f : BinaryFormat) (m : Nat) (place : Int) : Magnitude :=
  if m = 2 * f.unit then ⟨f.unit, place + 1⟩ else ⟨m, place⟩

lemma carried_value (f : BinaryFormat) (m : Nat) (place : Int) :
    (f.carried m place).value = m * 2 ^ place := by
  rw [carried]
  split
  case isTrue hm =>
    rw [hm, Magnitude.value, zpow_add₀ (by norm_num), zpow_one]
    push_cast
    ring
  case isFalse => rfl

lemma two_mul_unit (hprecision : 0 < f.precision) : 2 * f.unit = 2 ^ f.precision := by
  rw [unit, Nat.one_shiftLeft, ← Nat.pow_succ', Nat.succ_eq_add_one, Nat.sub_add_cancel hprecision]

/-- The significand of a quotient in its last place. -/
def significandOf (f : BinaryFormat) (num den : Nat) : Nat :=
  nearestQuotient (num <<< (-f.placeOf num den).toNat) (den <<< (f.placeOf num den).toNat)

lemma nearest_eq (f : BinaryFormat) (num den : Nat) :
    f.nearest num den
      = if num = 0 then some ⟨0, f.lowest⟩
        else if f.highest < (f.carried (f.significandOf num den) (f.placeOf num den)).exponent
        then none
        else some (f.carried (f.significandOf num den) (f.placeOf num den)) := rfl

lemma significandOf_spec (hden : 0 < den) :
    (f.significandOf num den : ℚ) ≤ num / den / 2 ^ f.placeOf num den + 1 / 2
      ∧ (num : ℚ) / den / 2 ^ f.placeOf num den ≤ f.significandOf num den + 1 / 2 := by
  have hpos : 0 < den <<< (f.placeOf num den).toNat := by
    rw [Nat.shiftLeft_eq]
    exact Nat.mul_pos hden (Nat.two_pow_pos _)
  rw [← div_shiftLeft]
  exact nearestQuotient_spec _ hpos

/-- A rounded significand has at most one bit too many, and then it is a power of two; it has all
bits unless it stands in the least place. -/
lemma significandOf_le (hprecision : 0 < f.precision) (hnum : 0 < num) (hden : 0 < den) :
    f.significandOf num den ≤ 2 * f.unit
      ∧ (f.unit ≤ f.significandOf num den ∨ f.placeOf num den = f.lowest) := by
  obtain ⟨hhigh, hlow⟩ := f.placeOf_spec hnum hden
  obtain ⟨hupper, hlower⟩ := @significandOf_spec f num den hden
  have h2 : (0 : ℚ) < 2 := by norm_num
  have hpos : (0 : ℚ) < 2 ^ f.placeOf num den := zpow_pos h2 _
  have hunit : (2 : ℚ) * f.unit = 2 ^ f.precision := by
    exact_mod_cast congrArg Nat.cast (two_mul_unit hprecision)
  constructor
  · rw [zpow_add₀ h2.ne', zpow_natCast, ← hunit, mul_comm, ← div_lt_iff₀ hpos] at hhigh
    have hlt : (f.significandOf num den : ℚ) < (2 * f.unit + 1 : Nat) := by
      push_cast
      linarith
    exact Nat.lt_succ_iff.mp (Nat.cast_lt.mp hlt)
  · rcases hlow with hlow | hlow
    · exact .inr hlow
    · refine .inl ?_
      have hexponent : f.placeOf num den + f.precision - 1
          = f.placeOf num den + ((f.precision - 1 : Nat) : Int) := by omega
      rw [hexponent, zpow_add₀ h2.ne', zpow_natCast, mul_comm, ← le_div_iff₀ hpos] at hlow
      have hpower : (f.unit : ℚ) = 2 ^ (f.precision - 1) := by
        rw [unit, Nat.one_shiftLeft]
        exact_mod_cast rfl
      have hlt : (f.unit : ℚ) < (f.significandOf num den + 1 : Nat) := by
        push_cast
        linarith
      exact Nat.lt_succ_iff.mp (Nat.cast_lt.mp hlt)

/-! ### The nearest number -/

/-- Whatever a quotient is rounded to is a magnitude of the format. -/
theorem has_of_nearest (hprecision : 0 < f.precision) (hf : f.lowest ≤ f.highest)
    (hden : 0 < den) {v : Magnitude} (h : f.nearest num den = some v) : f.Has v := by
  have hunit := f.unit_pos
  rw [nearest_eq] at h
  split_ifs at h with hnum hhighest
  · cases h
    exact ⟨by dsimp only; omega, Int.le_refl _, hf, .inr rfl⟩
  · obtain ⟨hle, hfull⟩ := f.significandOf_le hprecision (Nat.pos_of_ne_zero hnum) hden
    have hplace := @lowest_le_placeOf f num den
    cases h
    rw [carried] at hhighest ⊢
    split_ifs at hhighest ⊢ with hm
    · exact ⟨by dsimp only; omega, by dsimp only; omega, not_lt.mp hhighest, .inl (le_refl _)⟩
    · exact ⟨lt_of_le_of_ne hle hm, hplace, not_lt.mp hhighest, hfull⟩

/-- The quotients from here on are beyond the greatest number of the format by half a unit in its
last place, or more. -/
def limit (f : BinaryFormat) : ℚ := (2 ^ f.precision - 1 / 2) * 2 ^ f.highest

lemma limit_pos (f : BinaryFormat) : 0 < f.limit := by
  have hbits : (1 : ℚ) ≤ 2 ^ f.precision := one_le_pow₀ (by norm_num)
  exact mul_pos (by linarith) (zpow_pos (by norm_num) _)

/-- Zero lies below the limit. -/
lemma ne_zero_of_limit_le (hlimit : f.limit ≤ num / den) : num ≠ 0 := by
  rintro rfl
  rw [Nat.cast_zero, zero_div] at hlimit
  exact absurd f.limit_pos (not_lt.mpr hlimit)

/-- A quotient below the limit is rounded to a number. -/
theorem nearest_isSome (hprecision : 0 < f.precision) (hf : f.lowest ≤ f.highest) (hden : 0 < den)
    (hlimit : (num : ℚ) / den < f.limit) : (f.nearest num den).isSome := by
  have h2 : (1 : ℚ) < 2 := by norm_num
  have hpower : (0 : ℚ) < 2 ^ f.precision := by positivity
  rw [nearest_eq]
  split_ifs with hnum hhighest
  · rfl
  · exfalso
    rw [limit] at hlimit
    rw [carried] at hhighest
    split_ifs at hhighest with hm
    · -- a significand that is carried comes from a quotient as large as the limit
      have hplace : (2 : ℚ) ^ f.highest ≤ 2 ^ f.placeOf num den :=
        zpow_le_zpow_right₀ h2.le (Int.lt_add_one_iff.mp hhighest)
      have hpos : (0 : ℚ) < 2 ^ f.placeOf num den := zpow_pos (by norm_num) _
      have hupper := (@significandOf_spec f num den hden).1
      have hcarried : (2 : ℚ) ^ f.precision - 1 / 2 ≤ num / den / 2 ^ f.placeOf num den := by
        rw [hm, two_mul_unit hprecision] at hupper
        push_cast at hupper
        linarith
      have hone : (1 : ℚ) ≤ 2 ^ f.precision := one_le_pow₀ h2.le
      rw [le_div_iff₀ hpos] at hcarried
      have hscaled := mul_le_mul_of_nonneg_left hplace
        (show (0 : ℚ) ≤ 2 ^ f.precision - 1 / 2 by linarith)
      linarith
    · have hfull := ((f.placeOf_spec (Nat.pos_of_ne_zero hnum) hden).2).resolve_left (by
        dsimp only at hhighest
        omega)
      have hplace : (2 : ℚ) ^ (f.highest + f.precision)
          ≤ 2 ^ (f.placeOf num den + f.precision - 1) := by
        refine zpow_le_zpow_right₀ h2.le ?_
        dsimp only at hhighest
        omega
      have hhighestPower : (0 : ℚ) < 2 ^ f.highest := zpow_pos (by norm_num) _
      rw [zpow_add₀ (by norm_num), zpow_natCast] at hplace
      linarith
  · rfl

/-- A quotient from the limit on has its last place beyond those of the format, or is carried
there. -/
lemma highest_lt_carried (hprecision : 0 < f.precision) (hden : 0 < den)
    (hlimit : f.limit ≤ num / den) :
    f.highest < (f.carried (f.significandOf num den) (f.placeOf num den)).exponent := by
  have h2 : (1 : ℚ) < 2 := by norm_num
  have hhighest : (0 : ℚ) < 2 ^ f.highest := zpow_pos (by norm_num) _
  have hbits : (1 : ℚ) ≤ 2 ^ f.precision := one_le_pow₀ h2.le
  have hnum := Nat.pos_of_ne_zero (ne_zero_of_limit_le hlimit)
  rw [limit] at hlimit
  have hplace : f.highest ≤ f.placeOf num den := by
    have hpower : (2 : ℚ) ^ (f.precision - 1 + f.highest : Int)
        < 2 ^ (f.placeOf num den + f.precision) := by
      refine lt_of_le_of_lt (le_trans ?_ hlimit) (f.placeOf_spec hnum hden).1
      rw [zpow_add₀ (by norm_num), zpow_sub₀ (by norm_num), zpow_natCast, zpow_one]
      exact mul_le_mul_of_nonneg_right (by linarith) hhighest.le
    have := (zpow_lt_zpow_iff_right₀ h2).mp hpower
    omega
  rcases hplace.lt_or_eq with hbeyond | hlast
  · rw [carried]
    split
    · exact lt_trans hbeyond (lt_add_one _)
    · exact hbeyond
  · -- in the highest place the quotient is rounded to one bit too many
    have hunit := two_mul_unit hprecision
    have hpos : 0 < den <<< (f.placeOf num den).toNat := by
      rw [Nat.shiftLeft_eq]
      exact Nat.mul_pos hden (Nat.two_pow_pos _)
    have hodd : (2 * f.unit - 1) % 2 = 1 := by
      have := f.unit_pos
      omega
    have hcast : ((2 * f.unit - 1 : Nat) : ℚ) = 2 ^ f.precision - 1 := by
      rw [hunit, Nat.cast_sub (Nat.one_le_two_pow)]
      push_cast
      rfl
    have hlt : 2 * f.unit - 1 < f.significandOf num den := by
      refine lt_nearestQuotient hpos hodd ?_
      rw [div_shiftLeft, hcast, ← hlast, le_div_iff₀ hhighest]
      linarith
    have hle := (f.significandOf_le hprecision hnum hden).1
    rw [carried, if_pos (by omega), hlast]
    exact lt_add_one _

/-- A quotient is rounded to a number exactly if it lies below the limit. -/
theorem nearest_isSome_iff (hprecision : 0 < f.precision) (hf : f.lowest ≤ f.highest)
    (hden : 0 < den) : (f.nearest num den).isSome ↔ (num : ℚ) / den < f.limit := by
  refine ⟨fun h => ?_, nearest_isSome hprecision hf hden⟩
  by_contra hlimit
  have hle := not_lt.mp hlimit
  rw [nearest_eq, if_neg (ne_zero_of_limit_le hle),
    if_pos (highest_lt_carried hprecision hden hle)] at h
  cases h

lemma value_of_nearest (hnum : num ≠ 0) {v : Magnitude} (h : f.nearest num den = some v) :
    v.value = f.significandOf num den * 2 ^ f.placeOf num den := by
  rw [nearest_eq, if_neg hnum] at h
  split_ifs at h
  cases h
  exact carried_value ..

/-- Rounding up adds at most half a unit of the last place, in proportion to the quotient. -/
theorem nearest_value_le (hden : 0 < den)
    (hlarge : (2 : ℚ) ^ (f.lowest + f.precision - 1) ≤ num / den) {v : Magnitude}
    (h : f.nearest num den = some v) :
    v.value ≤ num / den * (1 + 1 / 2 ^ f.precision) := by
  have h2 : (2 : ℚ) ≠ 0 := by norm_num
  have hpositive : (0 : ℚ) < num / den := lt_of_lt_of_le (zpow_pos (by norm_num) _) hlarge
  have hnum : num ≠ 0 := by
    rintro rfl
    simp at hpositive
  have hfull : (2 : ℚ) ^ (f.placeOf num den + f.precision - 1) ≤ num / den := by
    rcases (f.placeOf_spec (Nat.pos_of_ne_zero hnum) hden).2 with hlowest | hfull
    · rwa [hlowest]
    · exact hfull
  have hpos : (0 : ℚ) < 2 ^ f.placeOf num den := zpow_pos (by norm_num) _
  have hprecision : (0 : ℚ) < 2 ^ f.precision := by positivity
  have hunit : (2 : ℚ) ^ f.placeOf num den / 2 ≤ num / den * (1 / 2 ^ f.precision) := by
    have hsplit : (2 : ℚ) ^ (f.placeOf num den + f.precision - 1)
        = 2 ^ f.placeOf num den / 2 * 2 ^ f.precision := by
      rw [zpow_sub₀ h2, zpow_add₀ h2, zpow_natCast, zpow_one]
      ring
    rw [hsplit] at hfull
    rwa [mul_one_div, le_div_iff₀ hprecision]
  have hupper := (@significandOf_spec f num den hden).1
  calc v.value = f.significandOf num den * 2 ^ f.placeOf num den := value_of_nearest hnum h
    _ ≤ (num / den / 2 ^ f.placeOf num den + 1 / 2) * 2 ^ f.placeOf num den :=
        mul_le_mul_of_nonneg_right hupper hpos.le
    _ = num / den + 2 ^ f.placeOf num den / 2 := by
        rw [add_mul, div_mul_cancel₀ _ hpos.ne', one_div_mul_eq_div]
    _ ≤ num / den * (1 + 1 / 2 ^ f.precision) := by
        rw [mul_add, mul_one]
        exact add_le_add_right hunit _

/-- What is at least one is rounded to a number that is so too. -/
theorem one_le_nearest (hprecision : 0 < f.precision) (hlowest : f.lowest ≤ 0) (hden : 0 < den)
    (hone : (1 : ℚ) ≤ num / den) {v : Magnitude} (h : f.nearest num den = some v) :
    1 ≤ v.value := by
  have hnum : num ≠ 0 := by
    rintro rfl
    norm_num at hone
  rw [value_of_nearest hnum h]
  rcases le_or_gt (f.placeOf num den) 0 with hplace | hplace
  · -- at a place of the fraction one is a whole number of units
    have hpos : (0 : ℚ) < 2 ^ f.placeOf num den := zpow_pos (by norm_num) _
    have hunits : (2 : ℚ) ^ f.placeOf num den * (2 ^ (-f.placeOf num den).toNat : Nat) = 1 := by
      push_cast
      rw [← zpow_natCast, ← zpow_add₀ (by norm_num), Int.toNat_of_nonneg (by omega),
        add_neg_cancel, zpow_zero]
    have hlower := (@significandOf_spec f num den hden).2
    have hquotient : ((2 ^ (-f.placeOf num den).toNat : Nat) : ℚ)
        ≤ num / den / 2 ^ f.placeOf num den := by
      rw [le_div_iff₀ hpos, mul_comm, hunits]
      exact hone
    have hlt : ((2 ^ (-f.placeOf num den).toNat : Nat) : ℚ)
        < (f.significandOf num den + 1 : Nat) := by
      push_cast at hquotient ⊢
      linarith
    have hle : ((2 ^ (-f.placeOf num den).toNat : Nat) : ℚ) ≤ f.significandOf num den :=
      Nat.cast_le.mpr (Nat.lt_succ_iff.mp (Nat.cast_lt.mp hlt))
    calc (1 : ℚ) = (2 ^ (-f.placeOf num den).toNat : Nat) * 2 ^ f.placeOf num den := by
          rw [mul_comm, hunits]
      _ ≤ f.significandOf num den * 2 ^ f.placeOf num den :=
          mul_le_mul_of_nonneg_right hle hpos.le
  · have hpower : (1 : ℚ) ≤ 2 ^ f.placeOf num den := one_le_zpow₀ (by norm_num) hplace.le
    have hsignificand : (1 : ℚ) ≤ f.significandOf num den := by
      rcases (f.significandOf_le hprecision (Nat.pos_of_ne_zero hnum) hden).2 with hunit | hlow
      · exact_mod_cast Nat.le_trans f.unit_pos hunit
      · omega
    exact one_le_mul_of_one_le_of_one_le hsignificand hpower

/-- A magnitude of a format is less than the limit. -/
lemma Has.value_lt (hprecision : 0 < f.precision) {v : Magnitude} (h : f.Has v) :
    v.value < f.limit := by
  have hpower : (2 : ℚ) ^ v.exponent ≤ 2 ^ f.highest :=
    zpow_le_zpow_right₀ (by norm_num) h.le_highest
  have hpos : (0 : ℚ) < 2 ^ f.highest := zpow_pos (by norm_num) _
  have hlt := h.significand_lt
  rw [two_mul_unit hprecision] at hlt
  have hsignificand : (v.significand : ℚ) ≤ 2 ^ f.precision - 1 := by
    have : ((v.significand + 1 : Nat) : ℚ) ≤ (2 ^ f.precision : Nat) := Nat.cast_le.mpr hlt
    push_cast at this
    linarith
  calc v.value ≤ v.significand * 2 ^ f.highest :=
        mul_le_mul_of_nonneg_left hpower (Nat.cast_nonneg _)
    _ ≤ (2 ^ f.precision - 1) * 2 ^ f.highest := mul_le_mul_of_nonneg_right hsignificand hpos.le
    _ < f.limit := mul_lt_mul_of_pos_right (by linarith) hpos

end BinaryFormat

/-! ### Numbers of 32 bits -/

lemma limit_single : single.limit = 2 ^ 128 - 2 ^ 103 := by
  norm_num [BinaryFormat.limit, single]

lemma ofFloat32_nearest (negative : Bool) {num den : Nat} (hden : 0 < den) :
    (ofFloat32 (toFloat32 negative (single.nearest num den))).2 = single.nearest num den := by
  rw [ofFloat32_toFloat32 negative fun _ =>
    BinaryFormat.has_of_nearest (by decide) (by decide) hden]

/-- A number of 64 bits is cut down to a finite one exactly if it is finite itself and lies below
the limit of the numbers of 32 bits. -/
theorem narrow_isSome_iff (x : Float) :
    (ofFloat32 (narrow x)).2.isSome ↔ ∃ v, (ofFloat x).2 = some v ∧ v.value < single.limit := by
  have hnarrow : narrow x = toFloat32 (ofFloat x).1
    ((ofFloat x).2.bind fun v => single.nearest v.num v.den) := rfl
  rw [hnarrow]
  cases hx : (ofFloat x).2 with
  | none =>
    rw [Option.bind_none, @ofFloat32_toFloat32 none _ nofun]
    exact iff_of_false nofun fun ⟨_, h, _⟩ => nomatch h
  | some v =>
    rw [Option.bind_some, ofFloat32_nearest _ v.den_pos,
      single.nearest_isSome_iff (by decide) (by decide) v.den_pos, v.num_div_den]
    exact ⟨fun h => ⟨v, rfl, h⟩, fun ⟨_, heq, h⟩ => Option.some.inj heq ▸ h⟩

/-- An integer of 64 bits lies far below the limit of the numbers of 32 bits. -/
theorem float32OfInt_isSome {n : Int} (hn : n.natAbs < UInt64.size) :
    (ofFloat32 (float32OfInt n)).2.isSome := by
  rw [float32OfInt, ofFloat32_nearest _ Nat.one_pos,
    single.nearest_isSome_iff (by decide) (by decide) Nat.one_pos, Nat.cast_one, div_one]
  refine lt_trans (Nat.cast_lt.mpr hn) ?_
  norm_num [BinaryFormat.limit, single, UInt64.size]

end GroundLink.Decimal
