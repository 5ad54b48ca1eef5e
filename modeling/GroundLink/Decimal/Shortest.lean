import GroundLink.Decimal.Binary

/-!
# The shortest decimal that reads back

Every finite binary number owns the interval of reals that round to it. The decimal written for it
has the fewest digits that any decimal in this interval has, and is the nearest of those.
-/

namespace GroundLink.Decimal

/-- The number `digits * 10 ^ exponent`. -/
structure Scientific where
  digits : Nat
  exponent : Int
deriving DecidableEq, Repr

/-- The reals that round to one binary number: from `low` to `high` over the common denominator
`den`, the ends included iff `closed`. -/
structure RoundingInterval where
  low : Nat
  value : Nat
  high : Nat
  den : Nat
  closed : Bool

/-- The interval of reals that round to `v`. Below a power of two the numbers lie twice as close. -/
def BinaryFormat.interval (f : BinaryFormat) (v : Magnitude) : RoundingInterval :=
  let place := v.exponent - 2
  let narrow := v.significand = f.unit ∧ f.lowest < v.exponent
  { low := (4 * v.significand - if narrow then 1 else 2) <<< place.toNat
    value := (4 * v.significand) <<< place.toNat
    high := (4 * v.significand + 2) <<< place.toNat
    den := 1 <<< (-place).toNat
    closed := v.significand % 2 = 0 }

namespace RoundingInterval

variable (i : RoundingInterval)

/-- Whether `num / den` lies in the interval. -/
def contains (num den : Nat) : Bool :=
  let x := num * i.den
  let low := i.low * den
  let high := i.high * den
  if i.closed then decide (low ≤ x ∧ x ≤ high) else decide (low < x ∧ x < high)

/-- The exponent of the leading decimal digit of the interval's number. -/
def leading : Int :=
  let guess := (((i.value.log2 : Int) - i.den.log2 - 1) * 1233) / 4096
  let reaches (e : Int) : Bool :=
    Nat.pow 10 e.toNat * i.den ≤ i.value * Nat.pow 10 (-e).toNat
  if reaches (guess + 1) then guess + 1 else if reaches guess then guess else guess - 1

/-- The decimal with last place `10 ^ exponent` that lies in the interval nearest to its number,
an exact tie going to the even digit. -/
def onGrid? (exponent : Int) : Option Scientific :=
  let up := Nat.pow 10 exponent.toNat
  let down := Nat.pow 10 (-exponent).toNat
  let num := i.value * down
  let den := i.den * up
  let below := num / den
  let twice := 2 * (num % den)
  let preferBelow := decide (twice < den) || (decide (twice = den) && decide (below % 2 = 0))
  let first := if preferBelow then below else below + 1
  let second := if preferBelow then below + 1 else below
  if i.contains (first * up) down then some ⟨first, exponent⟩
  else if i.contains (second * up) down then some ⟨second, exponent⟩
  else none

/-- The first hit on the grids with `count` digits fewer than `last`, one more digit at a time. -/
def search (last : Int) : Nat → Option Scientific
  | 0 => none
  | count + 1 => (i.onGrid? (last + count)).orElse fun _ => search last count

end RoundingInterval

/-- Cuts zeros off the end of the digits. -/
def Scientific.trim : Nat → Scientific → Scientific
  | 0, s => s
  | fuel + 1, s =>
    if s.digits % 10 = 0 ∧ s.digits ≠ 0 then trim fuel ⟨s.digits / 10, s.exponent + 1⟩ else s

/-- The shortest decimal that rounds to `v`, and the nearest of those. -/
def BinaryFormat.shortest (f : BinaryFormat) (v : Magnitude) : Scientific :=
  if v.significand = 0 then ⟨0, 0⟩
  else
    let i := f.interval v
    let found := i.search (i.leading - 17) 18
    (found.getD ⟨0, 0⟩).trim 18

end GroundLink.Decimal
