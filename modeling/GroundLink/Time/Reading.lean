import GroundLink.Text.Blank
import GroundLink.Time.Instant

/-!
# Reading instants

A date, a separator, a time of day and an offset from universal time. Blanks may stand before a
number and between the parts; a number may have fewer digits than it is written with. The text is
read from its front, each number is judged as soon as it is read, and whether the date exists is
judged last.
-/

namespace GroundLink.Time

/-- Why a text is no instant. -/
inductive InstantFault where
  | outOfRange
  | impossible
  | invalid
  | tooShort
  | tooLong
deriving DecidableEq, Repr

/-- The wording of a fault. -/
def InstantFault.message : InstantFault → String
  | .outOfRange => "input is out of range"
  | .impossible => "no possible date and time matching input"
  | .invalid => "input contains invalid characters"
  | .tooShort => "premature end of input"
  | .tooLong => "trailing input"

/-- A reader of a part of the text. -/
abbrev PartReader (α : Type) := List Char → Except InstantFault (α × List Char)

open Text

/-! ### Numbers -/

/-- Reads at most `width` digits onto `value`. -/
def readDigits : Nat → List Char → Nat → Nat × List Char
  | 0, s, value => (value, s)
  | _, [], value => (value, [])
  | width + 1, c :: rest, value =>
    if c.isDigit then readDigits width rest (value * 10 + (c.toNat - '0'.toNat))
    else (value, c :: rest)

/-- Reads a number of one digit at least and `width` at most. -/
def readNumber (width : Nat) : PartReader Nat
  | [] => .error .tooShort
  | c :: rest =>
    if c.isDigit then
      let (value, rest) := readDigits width (c :: rest) 0
      if (value : Int) ≤ Int64.maxValue.toInt then .ok (value, rest) else .error .outOfRange
    else .error .invalid

/-- Reads a number behind blanks and checks its range. -/
def readWithin (width low high : Nat) : PartReader Nat := fun s => do
  let (n, s) ← readNumber width (dropBlanks s)
  if low ≤ n ∧ n ≤ high then return (n, s) else throw .outOfRange

/-- Reads a year. Four digits suffice for one without a sign, and one with a sign may have more. -/
def readYear : PartReader Int := fun s =>
  match dropBlanks s with
  | '-' :: s => do
    let (n, s) ← readNumber s.length s
    if Int32.minValue.toInt ≤ -(n : Int) then return (-(n : Int), s) else throw .outOfRange
  | '+' :: s => do
    let (n, s) ← readNumber s.length s
    if (n : Int) ≤ Int32.maxValue.toInt then return ((n : Int), s) else throw .outOfRange
  | s => do
    let (n, s) ← readNumber 4 s
    return ((n : Int), s)

/-- Reads a mark, with blanks allowed before it. -/
def readMark (mark : Char) : PartReader Unit := fun s =>
  match dropBlanks s with
  | [] => .error .tooShort
  | c :: rest => if c = mark then .ok ((), rest) else .error .invalid

/-- Reads a fraction of a second in nanoseconds, if there is one. Digits beyond the ninth are
dropped. -/
def readFraction : PartReader Nat
  | '.' :: s => do
    let (_, after) ← readNumber 9 s
    let digits := s.take (s.length - after.length)
    let (value, _) := readDigits 9 (digits ++ List.replicate (9 - digits.length) '0') 0
    return (value, after.dropWhile Char.isDigit)
  | s => .ok (0, s)

/-! ### Offsets -/

/-- Two characters of what is left. -/
def takePair : List Char → Except InstantFault (Char × Char × List Char)
  | a :: b :: rest => .ok (a, b, rest)
  | [a] => if a.utf8Size < 2 then .error .tooShort else .error .invalid
  | [] => .error .tooShort

/-- Whether a character may stand between the hours and the minutes of an offset. -/
def separatesOffset (c : Char) : Bool := c = ':' || isBlank c

/-- Reads hours and minutes of an offset, in seconds. -/
def readHoursMinutes : PartReader Int := fun s => do
  let (h1, h2, s) ← takePair s
  if !(h1.isDigit && h2.isDigit) then throw .invalid
  let (m1, m2, s) ← takePair (s.dropWhile separatesOffset)
  if !(m1.isDigit && m2.isDigit) then throw .invalid
  if '6' ≤ m1 then throw .outOfRange
  let two (a b : Char) : Nat := (a.toNat - '0'.toNat) * 10 + (b.toNat - '0'.toNat)
  return ((two h1 h2 * 3600 + two m1 m2 * 60 : Nat), s)

/-- Reads an offset: a word for universal time, or a sign with hours and minutes. -/
def readOffset : PartReader Int
  | [] => .error .tooShort
  | c :: rest =>
    let word := [c, rest[0]?.getD ' ', rest[1]?.getD ' '].map Char.toUpper
    if word = ['U', 'T', 'C'] then .ok (0, rest.drop 2)
    else if c = 'Z' ∨ c = 'z' then .ok (0, rest)
    else if c = '+' then readHoursMinutes rest
    else if c = '-' ∨ c = '−' then (readHoursMinutes rest).map fun (n, s) => (-n, s)
    else .error .invalid

/-! ### Instants -/

/-- Reads the mark between date and time of day. -/
def readSeparator : PartReader Unit
  | [] => .error .tooShort
  | c :: rest => if c = 't' ∨ c = 'T' ∨ c = ' ' then .ok ((), rest) else .error .invalid

/-- The instant of a date and time of day at an offset. -/
def Instant.assemble (date : Date) (hour minute second nano : Nat) (offset : Int) :
    Except InstantFault Instant :=
  let leap := second = 60
  let clock : Int := (hour * 3600 + minute * 60 + if leap then 59 else second : Nat)
  let shifted := clock - offset
  let day := date.toDays + shifted / 86400
  if !date.isValid then .error .outOfRange
  else if 86400 ≤ offset.natAbs then .error .outOfRange
  else if day < firstDay ∨ lastDay < day then .error .impossible
  else .ok ⟨day, (shifted % 86400).toNat, nano + if leap then 1000000000 else 0⟩

/-- Reads an instant. -/
def Instant.read (text : List Char) : Except InstantFault Instant := do
  let (year, s) ← readYear text
  let (_, s) ← readMark '-' s
  let (month, s) ← readWithin 2 1 12 s
  let (_, s) ← readMark '-' s
  let (day, s) ← readWithin 2 1 31 s
  let (_, s) ← readSeparator s
  let (hour, s) ← readWithin 2 0 23 s
  let (_, s) ← readMark ':' s
  let (minute, s) ← readWithin 2 0 59 s
  let (_, s) ← readMark ':' s
  let (second, s) ← readWithin 2 0 60 s
  let (nano, s) ← readFraction s
  let (offset, s) ← readOffset (dropBlanks s)
  if dropBlanks s ≠ [] then throw .tooLong
  Instant.assemble ⟨year, month, day⟩ hour minute second nano offset

end GroundLink.Time
