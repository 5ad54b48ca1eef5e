import GroundLink.Decimal.Shortest

/-!
# Decimal style

How a decimal is written: positionally while its leading digit is near the point, and with an
exponent otherwise. A whole number written positionally keeps one zero behind the point; an
exponent always has its sign.
-/

namespace GroundLink.Decimal

/-- Which exponents of the leading digit are written positionally. -/
structure Style where
  least : Int
  greatest : Int

/-- The style of 64-bit numbers. -/
def doubleStyle : Style := ⟨-5, 15⟩

/-- The style of 32-bit numbers. -/
def singleStyle : Style := ⟨-6, 12⟩

/-- The decimal digits of a natural number. -/
def digitsOf (n : Nat) : List Char := Nat.toDigits 10 n

/-- The decimal form of an integer. -/
def intChars (n : Int) : List Char :=
  if n < 0 then '-' :: digitsOf n.natAbs else digitsOf n.natAbs

/-- Writes a decimal without its sign. -/
def Style.write (style : Style) (s : Scientific) : List Char :=
  let digits := digitsOf s.digits
  let lead := s.exponent + (digits.length : Int) - 1
  if s.digits = 0 then ['0', '.', '0']
  else if style.least ≤ lead ∧ lead ≤ style.greatest then
    if 0 ≤ s.exponent then digits ++ List.replicate s.exponent.toNat '0' ++ ['.', '0']
    else if 0 ≤ lead then
      digits.take (lead.toNat + 1) ++ '.' :: digits.drop (lead.toNat + 1)
    else '0' :: '.' :: List.replicate (-lead - 1).toNat '0' ++ digits
  else
    let fraction := if digits.length = 1 then [] else '.' :: digits.drop 1
    let power := (if lead < 0 then '-' else '+') :: digitsOf lead.natAbs
    digits.take 1 ++ fraction ++ 'e' :: power

/-- Writes a number of a binary format with its sign; `none` if it is not finite. -/
def Style.writeSigned (style : Style) (f : BinaryFormat) :
    Bool × Option Magnitude → Option (List Char)
  | (_, none) => none
  | (negative, some v) =>
    let body := style.write (f.shortest v)
    some (if negative then '-' :: body else body)

/-- A 64-bit number in its shortest form; `none` if it is not finite. -/
def floatChars (x : Float) : Option (List Char) :=
  doubleStyle.writeSigned double (ofFloat x)

/-- A 32-bit number in its shortest form; `none` if it is not finite. -/
def float32Chars (x : Float32) : Option (List Char) :=
  singleStyle.writeSigned single (ofFloat32 x)

end GroundLink.Decimal
