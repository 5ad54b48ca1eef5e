import GroundLink.Time.Calendar

/-!
# Instants

A point in universal time: the day, the second of the day and the nanosecond. A leap second is the
second nanosecond range of the second before it, and so comes before the next full second.
-/

namespace GroundLink.Time

/-- A point in universal time. -/
structure Instant where
  day : Int
  second : Nat
  nano : Nat
deriving DecidableEq, Repr, Inhabited

namespace Instant

/-- Whether one instant is strictly earlier than another. -/
def isBefore (a b : Instant) : Bool :=
  a.day < b.day || (a.day = b.day &&
    (a.second < b.second || (a.second = b.second && a.nano < b.nano)))

/-! ### Writing -/

/-- A number with leading zeros to at least `width` digits. -/
def padded (width n : Nat) : List Char :=
  let digits := Nat.toDigits 10 n
  List.replicate (width - digits.length) '0' ++ digits

/-- A year: four digits, and a sign in front of years outside of those that have four. -/
def yearChars (year : Int) : List Char :=
  if 0 ≤ year ∧ year ≤ 9999 then padded 4 year.natAbs
  else (if year < 0 then '-' else '+') :: padded 4 year.natAbs

/-- A fraction of a second in thousandths, millionths or billionths, whichever suffices. -/
def fractionChars (nano : Nat) : List Char :=
  if nano = 0 then []
  else if nano % 1000000 = 0 then '.' :: padded 3 (nano / 1000000)
  else if nano % 1000 = 0 then '.' :: padded 6 (nano / 1000)
  else '.' :: padded 9 nano

/-- An instant as date and time of day in universal time; a leap second is second 60. -/
def chars (t : Instant) : List Char :=
  let date := Date.ofDays t.day
  let leap := 1000000000 ≤ t.nano
  let second := t.second % 60 + if leap then 1 else 0
  let nano := if leap then t.nano - 1000000000 else t.nano
  yearChars date.year ++ '-' :: padded 2 date.month ++ '-' :: padded 2 date.day
    ++ 'T' :: padded 2 (t.second / 3600) ++ ':' :: padded 2 (t.second / 60 % 60)
    ++ ':' :: padded 2 second ++ fractionChars nano ++ ['Z']

/-- An instant as text. -/
def text (t : Instant) : String := String.ofList t.chars

end Instant

end GroundLink.Time
