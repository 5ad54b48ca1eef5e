import GroundLink.Decimal.Binary
import GroundLink.Json.Basic
import GroundLink.Json.Position

/-!
# Reading JSON numbers

An integer of at most 64 bits is read exactly. Any other number is read in floating point: the
digits that still fit 64 bits are taken as an integer, further integer digits only raise the
exponent, further digits of the fraction are dropped, and the integer is then multiplied or divided
once by a power of ten, each step rounded to the nearest double.
-/

namespace GroundLink.Json

open Decimal

/-! ### Floating point from significand and exponent -/

/-- A power of ten as the nearest double. -/
def powerOfTen (e : Nat) : Magnitude := (double.nearest (Nat.pow 10 e) 1).getD ⟨0, 0⟩

/-- The product of two numbers, rounded. -/
def product (a b : Magnitude) : Option Magnitude :=
  double.nearest (a.num * b.num) (a.den * b.den)

/-- The quotient of two numbers, rounded. -/
def quotient (a b : Magnitude) : Option Magnitude :=
  double.nearest (a.num * b.den) (a.den * b.num)

/-- The largest power of ten that is a double. -/
def greatestPower : Nat := 308

/-- Divides by a power of ten, a factor of `10 ^ 308` at a time. -/
def divideByPower : Nat → Magnitude → Nat → Option Magnitude
  | 0, v, _ => some v
  | fuel + 1, v, e =>
    if e ≤ greatestPower then quotient v (powerOfTen e)
    else do divideByPower fuel (← quotient v (powerOfTen greatestPower)) (e - greatestPower)

/-- The double `significand * 10 ^ exponent`, as it is rounded while reading; `none` when it is out
of range. Three divisions bring the largest significand down to zero. -/
def ofParts (significand : Nat) (exponent : Int) : Option Magnitude := do
  let v ← double.nearest significand 1
  if v.significand = 0 then return ⟨0, double.lowest⟩
  if 0 ≤ exponent then
    if greatestPower < exponent.toNat then none
    else product v (powerOfTen exponent.toNat)
  else divideByPower 3 v exponent.natAbs

/-! ### Digits -/

/-- The value of a decimal digit. -/
def digitValue (c : Char) : Nat := c.toNat - '0'.toNat

/-- Appends digits to a significand while it fits 64 bits; also how many were appended. -/
def appendDigits : Nat → List Char → Nat × Nat
  | significand, [] => (significand, 0)
  | significand, c :: rest =>
    let next := significand * 10 + digitValue c
    if next < UInt64.size then
      let (s, n) := appendDigits next rest
      (s, n + 1)
    else (significand, 0)

/-- The digits at the front of a text, and what follows them. -/
def spanDigits (c : Cursor) : List Char × Cursor :=
  (c.rest.takeWhile Char.isDigit, .skipWhile Char.isDigit c.rest c.pos)

/-! ### The parts of a number -/

/-- A number with its sign, if it is not too large. -/
def signed (negative : Bool) (v : Option Magnitude) (c : Cursor) :
    Except SyntaxError (Number × Cursor) :=
  match v with
  | some v => .ok (.float (toFloat negative (some v)), c)
  | none => .error ⟨.numberOutOfRange, c.pos⟩

/-- The digits of an exponent: its value, or `none` where it has left 32 bits, and what is left. -/
def exponentDigits : List Char → Position → Nat → Option Nat × Cursor
  | [], pos, value => (some value, ⟨[], pos⟩)
  | c :: rest, pos, value =>
    if c.isDigit then
      let next := value * 10 + digitValue c
      if (next : Int) ≤ Int32.maxValue.toInt then exponentDigits rest (pos.past c) next
      else (none, ⟨rest, pos.past c⟩)
    else (some value, ⟨c :: rest, pos⟩)

/-- Reads the exponent behind its mark. -/
def readExponent (negative : Bool) (significand : Nat) (scale : Int) (c : Cursor) :
    Except SyntaxError (Number × Cursor) :=
  let (down, c) := match c.rest with
    | '+' :: _ => (false, c.advance)
    | '-' :: _ => (true, c.advance)
    | _ => (false, c)
  match c.rest with
  | [] => .error ⟨.valueEnds, c.pos⟩
  | d :: rest =>
    if d.isDigit then
      match exponentDigits rest (c.pos.past d) (digitValue d) with
      | (some e, c) =>
        signed negative (ofParts significand (scale + if down then -(e : Int) else e)) c
      | (none, c) =>
        if significand ≠ 0 ∧ !down then .error ⟨.numberOutOfRange, c.pos⟩
        else signed negative (ofParts 0 0) (spanDigits c).2
    else .error ⟨.badNumber, c.peekPos⟩

/-- Reads what may follow the digits of a number: an exponent or nothing. -/
def readScale (negative : Bool) (significand : Nat) (scale : Int) (c : Cursor) :
    Except SyntaxError (Number × Cursor) :=
  match c.rest with
  | 'e' :: _ | 'E' :: _ => readExponent negative significand scale c.advance
  | _ => signed negative (ofParts significand scale) c

/-- Reads a fraction behind its point. -/
def readFraction (negative : Bool) (significand : Nat) (scale : Int) (c : Cursor) :
    Except SyntaxError (Number × Cursor) :=
  let (digits, after) := spanDigits c
  match digits, c.rest with
  | [], [] => .error ⟨.valueEnds, c.pos⟩
  | [], _ => .error ⟨.badNumber, c.peekPos⟩
  | _, _ =>
    let (significand, count) := appendDigits significand digits
    readScale negative significand (scale - count) after

/-- An integer without fraction or exponent. A minus sign before zero makes a floating-point zero,
and an integer that does not fit 64 bits becomes floating-point too. -/
def integer (negative : Bool) (n : Nat) : Number :=
  if negative then
    if n = 0 ∨ -(n : Int) < Int64.minValue.toInt then .float (toFloat true (double.nearest n 1))
    else .int (-n)
  else .int n

/-- Reads a number behind its sign. -/
def readNumber (negative : Bool) (c : Cursor) : Except SyntaxError (Number × Cursor) :=
  let (digits, after) := spanDigits c
  match digits, c.rest with
  | [], [] => .error ⟨.valueEnds, c.pos⟩
  | [], _ => .error ⟨.badNumber, c.peekPos⟩
  | '0' :: _ :: _, _ => .error ⟨.badNumber, c.advance.peekPos⟩
  | _, _ =>
    let (significand, count) := appendDigits 0 digits
    let scale : Int := (digits.length - count : Nat)
    match after.rest with
    | '.' :: _ => readFraction negative significand scale after.advance
    | 'e' :: _ | 'E' :: _ => readExponent negative significand scale after.advance
    | _ =>
      if count = digits.length then .ok (integer negative significand, after)
      else signed negative (ofParts significand scale) after

end GroundLink.Json
