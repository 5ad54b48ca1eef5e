/-!
# Binary floating-point formats

A finite number of a binary format is `significand * 2 ^ exponent` with a bounded number of
significant bits and a least exponent. This module holds the two formats that telemetry values
come in, reads numbers off their bit patterns, and rounds an exact quotient to the nearest number
of a format, a tie going to the even significand. All of it is exact arithmetic on `Nat`.
-/

namespace GroundLink.Decimal

/-- A binary format: `precision` significant bits, and the exponents of the last place. -/
structure BinaryFormat where
  precision : Nat
  lowest : Int
  highest : Int

/-- Numbers of 64 bits. -/
def double : BinaryFormat := ⟨53, -1074, 971⟩

/-- Numbers of 32 bits. -/
def single : BinaryFormat := ⟨24, -149, 104⟩

/-- The number `significand * 2 ^ exponent`. -/
structure Magnitude where
  significand : Nat
  exponent : Int
deriving DecidableEq, Repr

namespace Magnitude

/-- The numerator of a magnitude written as a fraction. -/
def num (v : Magnitude) : Nat := v.significand <<< v.exponent.toNat

/-- The denominator of a magnitude written as a fraction, a power of two. -/
def den (v : Magnitude) : Nat := 1 <<< (-v.exponent).toNat

theorem den_pos (v : Magnitude) : 0 < v.den := by
  rw [den, Nat.one_shiftLeft]
  exact Nat.two_pow_pos _

end Magnitude

/-! ### Rounding -/

/-- The quotient `num / den` rounded to the nearest integer, a half to the even one. -/
def nearestQuotient (num den : Nat) : Nat :=
  let quotient := num / den
  let remainder := num % den
  if 2 * remainder < den then quotient
  else if 2 * remainder = den ∧ quotient % 2 = 0 then quotient
  else quotient + 1

namespace BinaryFormat

variable (f : BinaryFormat)

/-- The least significand with all its bits. -/
def unit : Nat := 1 <<< (f.precision - 1)

/-- The exponent of the last place that `num / den` has in the format, ignoring the bound above. -/
def placeOf (num den : Nat) : Int :=
  let guess := (num.log2 : Int) - den.log2 - f.precision
  let place := max f.lowest guess
  let fits := num <<< (-place).toNat < den <<< (place.toNat + f.precision)
  if fits then place else place + 1

/-- The number of the format nearest to `num / den`; `none` when it lies beyond the largest. -/
def nearest (num den : Nat) : Option Magnitude :=
  let place := f.placeOf num den
  let m := nearestQuotient (num <<< (-place).toNat) (den <<< place.toNat)
  let carried : Magnitude :=
    if m = 2 * f.unit then ⟨f.unit, place + 1⟩ else ⟨m, place⟩
  if num = 0 then some ⟨0, f.lowest⟩
  else if f.highest < carried.exponent then none
  else some carried

/-- The bit pattern of a number of the format, without its sign. -/
def pattern (v : Magnitude) : Nat :=
  (v.exponent - f.lowest).toNat * f.unit + v.significand

/-- The bit pattern of infinity, without its sign. -/
def infinity : Nat := (f.highest - f.lowest + 2).toNat * f.unit

/-- The bit pattern of a sign. -/
def signBit : Nat := (f.highest - f.lowest + 3).toNat * f.unit

/-- The number that a bit pattern without sign stands for; `none` for infinity and for no number. -/
def ofPattern (bits : Nat) : Option Magnitude :=
  if f.infinity ≤ bits then none
  else if bits < f.unit then some ⟨bits, f.lowest⟩
  else some ⟨bits % f.unit + f.unit, f.lowest + (bits / f.unit - 1 : Nat)⟩

end BinaryFormat

/-! ### Numbers of the two formats -/

/-- The sign of a 64-bit number and its magnitude, if it is finite. -/
def ofFloat (x : Float) : Bool × Option Magnitude :=
  let bits := x.toBits.toNat
  (decide (double.signBit ≤ bits), double.ofPattern (bits % double.signBit))

/-- The sign of a 32-bit number and its magnitude, if it is finite. -/
def ofFloat32 (x : Float32) : Bool × Option Magnitude :=
  let bits := x.toBits.toNat
  (decide (single.signBit ≤ bits), single.ofPattern (bits % single.signBit))

/-- The 64-bit number with the given sign and magnitude; infinity where there is none. -/
def toFloat (negative : Bool) (v : Option Magnitude) : Float :=
  let bits := (v.map double.pattern).getD double.infinity
  .ofBits (.ofNat (if negative then double.signBit + bits else bits))

/-- The 32-bit number with the given sign and magnitude; infinity where there is none. -/
def toFloat32 (negative : Bool) (v : Option Magnitude) : Float32 :=
  let bits := (v.map single.pattern).getD single.infinity
  .ofBits (.ofNat (if negative then single.signBit + bits else bits))

/-- The 64-bit number nearest to an integer. -/
def floatOfInt (n : Int) : Float := toFloat (n < 0) (double.nearest n.natAbs 1)

/-- The 32-bit number nearest to an integer. -/
def float32OfInt (n : Int) : Float32 := toFloat32 (n < 0) (single.nearest n.natAbs 1)

/-- A 64-bit number cut down to 32 bits; infinity where it is too large. -/
def narrow (x : Float) : Float32 :=
  let (negative, v) := ofFloat x
  toFloat32 negative (v.bind fun v => single.nearest v.num v.den)

/-- A 32-bit number as a 64-bit one, without any change of value. -/
def widen (x : Float32) : Float :=
  let (negative, v) := ofFloat32 x
  toFloat negative (v.bind fun v => double.nearest v.num v.den)

end GroundLink.Decimal
