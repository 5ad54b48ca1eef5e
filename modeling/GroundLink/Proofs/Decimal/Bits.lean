import GroundLink.Decimal.Binary
import Mathlib

/-!
# Numbers and their bit patterns

A bit pattern that does not stand for no number is kept by the number that is made of it. So every
magnitude of a format, of either sign, is found again in the bits of its number.
-/

open Float.Model.UnpackedFloat

namespace GroundLink.Decimal

/-! ### Fields -/

section Fields

variable {spec : Float.Model.Format}

lemma toNat_unpackExponent (b : BitVec spec.numBits) :
    (unpackExponent b).toNat
      = b.toNat / 2 ^ spec.mantissaBitsWithoutImplicit % 2 ^ spec.exponentBits := by
  rw [unpackExponent_def, BitVec.extractLsb'_toNat, Nat.shiftRight_eq_div_pow]

lemma toNat_unpackMantissa (b : BitVec spec.numBits) :
    (unpackMantissa b).toNat = b.toNat % 2 ^ spec.mantissaBitsWithoutImplicit := by
  rw [unpackMantissa_def, BitVec.extractLsb'_toNat, Nat.shiftRight_zero]

end Fields

/-- The bits of a 64-bit number that is made of bits. -/
lemma toBits_ofBits {b : UInt64} (hb : b.toNat % 2 ^ 63 ≤ 2047 * 2 ^ 52) :
    (Float.ofBits b).toBits = b := by
  have hpack : pack .binary64 (unpack .binary64 b.toBitVec) = b.toBitVec := by
    refine pack_unpack_of_valid ⟨fun hexponent hmantissa => absurd ?_ hmantissa⟩
    have htop := congrArg BitVec.toNat hexponent
    rw [toNat_unpackExponent] at htop
    rw [← BitVec.toNat_inj, toNat_unpackMantissa]
    change b.toNat / 2 ^ 52 % 2 ^ 11 = 2047 at htop
    change b.toNat % 2 ^ 52 = 0
    omega
  exact congrArg UInt64.ofBitVec hpack

/-- The bits of a 32-bit number that is made of bits. -/
lemma toBits_ofBits32 {b : UInt32} (hb : b.toNat % 2 ^ 31 ≤ 255 * 2 ^ 23) :
    (Float32.ofBits b).toBits = b := by
  have hpack : pack .binary32 (unpack .binary32 b.toBitVec) = b.toBitVec := by
    refine pack_unpack_of_valid ⟨fun hexponent hmantissa => absurd ?_ hmantissa⟩
    have htop := congrArg BitVec.toNat hexponent
    rw [toNat_unpackExponent] at htop
    rw [← BitVec.toNat_inj, toNat_unpackMantissa]
    change b.toNat / 2 ^ 23 % 2 ^ 8 = 255 at htop
    change b.toNat % 2 ^ 23 = 0
    omega
  exact congrArg UInt32.ofBitVec hpack

/-! ### Magnitudes of a format -/

namespace BinaryFormat

variable {f : BinaryFormat} {v : Magnitude} {bits : Nat}

/-- A magnitude is one of a format: it has all its bits, or the least exponent. -/
structure Has (f : BinaryFormat) (v : Magnitude) : Prop where
  significand_lt : v.significand < 2 * f.unit
  lowest_le : f.lowest ≤ v.exponent
  le_highest : v.exponent ≤ f.highest
  unit_le_or : f.unit ≤ v.significand ∨ v.exponent = f.lowest

lemma unit_pos (f : BinaryFormat) : 0 < f.unit := by
  rw [unit, Nat.one_shiftLeft]
  exact Nat.two_pow_pos _

lemma Has.pattern_lt (h : f.Has v) : f.pattern v < f.infinity := by
  have hcount : (v.exponent - f.lowest).toNat + 2 ≤ (f.highest - f.lowest + 2).toNat := by
    have := h.lowest_le
    have := h.le_highest
    omega
  calc f.pattern v
      < (v.exponent - f.lowest).toNat * f.unit + 2 * f.unit :=
        Nat.add_lt_add_left h.significand_lt _
    _ = ((v.exponent - f.lowest).toNat + 2) * f.unit := (Nat.add_mul ..).symm
    _ ≤ f.infinity := Nat.mul_le_mul_right _ hcount

/-- A magnitude is found again in its pattern. -/
lemma Has.ofPattern (h : f.Has v) : f.ofPattern (f.pattern v) = some v := by
  have hunit := f.unit_pos
  have hlt := h.significand_lt
  have hlow := h.lowest_le
  rw [BinaryFormat.ofPattern, if_neg (Nat.not_le.mpr h.pattern_lt)]
  rcases Nat.lt_or_ge v.significand f.unit with hsmall | hfull
  · have hexponent := h.unit_le_or.resolve_left (Nat.not_le.mpr hsmall)
    have hpattern : f.pattern v = v.significand := by simp [pattern, hexponent]
    rw [hpattern, if_pos hsmall, ← hexponent]
  · have hpattern : f.pattern v
        = v.significand - f.unit + f.unit * ((v.exponent - f.lowest).toNat + 1) := by
      rw [pattern, Nat.mul_comm f.unit, Nat.add_mul]
      omega
    have hsmall : v.significand - f.unit < f.unit := by omega
    have hge : ¬ f.pattern v < f.unit := by
      rw [hpattern, Nat.mul_add]
      omega
    rw [if_neg hge, hpattern, Nat.add_mul_mod_self_left, Nat.add_mul_div_left _ _ hunit,
      Nat.mod_eq_of_lt hsmall, Nat.div_eq_of_lt hsmall, Nat.sub_add_cancel hfull]
    congr 2
    omega

lemma ofPattern_infinity (f : BinaryFormat) : f.ofPattern f.infinity = none :=
  if_pos (Nat.le_refl _)

/-- What a pattern stands for is a magnitude of the format. -/
lemma has_of_ofPattern (hf : f.lowest ≤ f.highest) (h : f.ofPattern bits = some v) : f.Has v := by
  have hunit := f.unit_pos
  rw [BinaryFormat.ofPattern] at h
  split_ifs at h with hinfinite hsmall
  · cases h
    exact ⟨Nat.lt_of_lt_of_le hsmall (by omega), Int.le_refl _, hf, .inr rfl⟩
  · cases h
    have hmod := Nat.mod_lt bits hunit
    have hdiv : bits / f.unit < (f.highest - f.lowest + 2).toNat :=
      Nat.div_lt_of_lt_mul (by rw [Nat.mul_comm]; exact Nat.not_le.mp hinfinite)
    exact ⟨by dsimp only; omega, by dsimp only; omega, by dsimp only; omega,
      .inl (Nat.le_add_left ..)⟩

/-- The pattern of a magnitude, or of infinity. -/
lemma pattern_le {v : Option Magnitude} (hv : ∀ w ∈ v, f.Has w) :
    (v.map f.pattern).getD f.infinity ≤ f.infinity := by
  cases v with
  | none => exact Nat.le_refl _
  | some v => exact Nat.le_of_lt (hv v rfl).pattern_lt

lemma ofPattern_map {v : Option Magnitude} (hv : ∀ w ∈ v, f.Has w) :
    f.ofPattern ((v.map f.pattern).getD f.infinity) = v := by
  cases v with
  | none => exact f.ofPattern_infinity
  | some v => exact (hv v rfl).ofPattern

end BinaryFormat

/-! ### Numbers of the two formats -/

/-- A pattern behind a sign. -/
def signedPattern (negative : Bool) (sign pattern : Nat) : Nat :=
  if negative then sign + pattern else pattern

section Signed

variable {negative : Bool} {sign pattern : Nat}

lemma signedPattern_lt (h : pattern < sign) : signedPattern negative sign pattern < 2 * sign := by
  rw [signedPattern]
  split <;> omega

lemma sign_le_signedPattern (h : pattern < sign) :
    decide (sign ≤ signedPattern negative sign pattern) = negative := by
  cases negative with
  | false => exact decide_eq_false (Nat.not_le.mpr h)
  | true => exact decide_eq_true (Nat.le_add_right ..)

lemma signedPattern_mod (h : pattern < sign) :
    signedPattern negative sign pattern % sign = pattern := by
  cases negative with
  | false => exact Nat.mod_eq_of_lt h
  | true => exact (Nat.add_mod_left ..).trans (Nat.mod_eq_of_lt h)

end Signed

variable {v : Option Magnitude}

/-- The sign and the magnitude that a 64-bit number has been made of are found again. -/
theorem ofFloat_toFloat (negative : Bool) (hv : ∀ w ∈ v, double.Has w) :
    ofFloat (toFloat negative v) = (negative, v) := by
  let pattern := (v.map double.pattern).getD double.infinity
  have hle : pattern ≤ 2047 * 2 ^ 52 := BinaryFormat.pattern_le hv
  have hsign : double.signBit = 2 ^ 63 := rfl
  have hlt : pattern < double.signBit := by omega
  have hbits : (UInt64.ofNat (signedPattern negative double.signBit pattern)).toNat
      = signedPattern negative double.signBit pattern := by
    have := @signedPattern_lt negative _ _ hlt
    rw [UInt64.toNat_ofNat', Nat.mod_eq_of_lt (by omega)]
  have hkept : (toFloat negative v).toBits
      = UInt64.ofNat (signedPattern negative double.signBit pattern) := by
    refine toBits_ofBits ?_
    change (UInt64.ofNat (signedPattern negative double.signBit pattern)).toNat % 2 ^ 63 ≤ _
    rw [hbits, ← hsign, signedPattern_mod hlt]
    exact hle
  rw [ofFloat, hkept, hbits, sign_le_signedPattern hlt, signedPattern_mod hlt]
  exact congrArg (negative, ·) (BinaryFormat.ofPattern_map hv)

/-- The sign and the magnitude that a 32-bit number has been made of are found again. -/
theorem ofFloat32_toFloat32 (negative : Bool) (hv : ∀ w ∈ v, single.Has w) :
    ofFloat32 (toFloat32 negative v) = (negative, v) := by
  let pattern := (v.map single.pattern).getD single.infinity
  have hle : pattern ≤ 255 * 2 ^ 23 := BinaryFormat.pattern_le hv
  have hsign : single.signBit = 2 ^ 31 := rfl
  have hlt : pattern < single.signBit := by omega
  have hbits : (UInt32.ofNat (signedPattern negative single.signBit pattern)).toNat
      = signedPattern negative single.signBit pattern := by
    have := @signedPattern_lt negative _ _ hlt
    rw [UInt32.toNat_ofNat', Nat.mod_eq_of_lt (by omega)]
  have hkept : (toFloat32 negative v).toBits
      = UInt32.ofNat (signedPattern negative single.signBit pattern) := by
    refine toBits_ofBits32 ?_
    change (UInt32.ofNat (signedPattern negative single.signBit pattern)).toNat % 2 ^ 31 ≤ _
    rw [hbits, ← hsign, signedPattern_mod hlt]
    exact hle
  rw [ofFloat32, hkept, hbits, sign_le_signedPattern hlt, signedPattern_mod hlt]
  exact congrArg (negative, ·) (BinaryFormat.ofPattern_map hv)

/-- The magnitude of a finite number is one of the format. -/
lemma has_of_ofFloat {x : Float} {v : Magnitude} (h : (ofFloat x).2 = some v) : double.Has v :=
  BinaryFormat.has_of_ofPattern (by decide) h

lemma has_of_ofFloat32 {x : Float32} {v : Magnitude} (h : (ofFloat32 x).2 = some v) :
    single.Has v :=
  BinaryFormat.has_of_ofPattern (by decide) h

end GroundLink.Decimal
