/-!
# Integers in decimal text

An optional sign and at least one digit. A minus sign is read only where negative integers are, and
the integer has to fit the range that is asked of it. The text is read from its front: of two faults
the first one counts.
-/

namespace GroundLink.Text

/-- Why a text is no integer of a range. -/
inductive IntegerFault where
  | empty
  | badDigit
  | tooLarge
  | tooSmall
deriving DecidableEq, Repr

/-- The wording of a fault. -/
def IntegerFault.message : IntegerFault → String
  | .empty => "cannot parse integer from empty string"
  | .badDigit => "invalid digit found in string"
  | .tooLarge => "number too large to fit in target type"
  | .tooSmall => "number too small to fit in target type"

/-- Reads digits onto `value`, which must not pass `limit`. -/
def readDigits (limit : Nat) (beyond : IntegerFault) : List Char → Nat → Except IntegerFault Nat
  | [], value => .ok value
  | c :: rest, value =>
    if c.isDigit then
      let next := value * 10 + (c.toNat - '0'.toNat)
      if next ≤ limit then readDigits limit beyond rest next else .error beyond
    else .error .badDigit

/-- Reads an integer from `-below` to `above`. -/
def readInteger (below above : Nat) (text : List Char) : Except IntegerFault Int :=
  match text with
  | [] => .error .empty
  | ['+'] | ['-'] => .error .badDigit
  | '+' :: digits => (readDigits above .tooLarge digits 0).map Int.ofNat
  | '-' :: digits =>
    if below = 0 then .error .badDigit
    else (readDigits below .tooSmall digits 0).map fun n => -(n : Int)
  | digits => (readDigits above .tooLarge digits 0).map Int.ofNat

end GroundLink.Text
