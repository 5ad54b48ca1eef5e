import GroundLink.Json.Position
import GroundLink.Text.Hexadecimal

/-!
# Reading JSON strings

The body of a string is read one character at a time; between characters the reader is in one of a
few stages, which say what the last backslash has begun. The four bytes of a hexadecimal escape are
taken together, whatever they are, before they are judged.
-/

namespace GroundLink.Json

/-- Where the reader is between two characters of a string. -/
inductive Stage where
  /-- Outside any escape. -/
  | plain
  /-- Behind a backslash. -/
  | escape
  /-- Inside a hexadecimal escape: the first unit of a pair, if this is the second; the digits so
  far, unless one of them was none; and how many bytes have been read. -/
  | hex (lead : Option Nat) (value : Option Nat) (bytes : Nat)
  /-- Behind the first unit of a pair. -/
  | lead (unit : Nat)
  /-- Behind the backslash that follows the first unit of a pair. -/
  | leadEscape (unit : Nat)

/-- The character that a backslash and one more character stand for. -/
def escaped? : Char → Option Char
  | '"' => some '"'
  | '\\' => some '\\'
  | '/' => some '/'
  | 'b' => some '\x08'
  | 'f' => some '\x0c'
  | 'n' => some '\n'
  | 'r' => some '\r'
  | 't' => some '\t'
  | _ => none

/-- The place `count` bytes into a character. -/
def Position.pastBytes (p : Position) (c : Char) (count : Nat) : Position :=
  if count = c.utf8Size then p.past c else ⟨p.line, p.column + count⟩

/-- What four hexadecimal digits lead to: a character, or the stage that waits for the second unit
of a pair. -/
def closeHex (lead : Option Nat) (unit : Nat) : Except Fault (Sum Char Nat) :=
  match lead with
  | none =>
    if 0xDC00 ≤ unit ∧ unit ≤ 0xDFFF then .error .loneSurrogate
    else if 0xD800 ≤ unit ∧ unit ≤ 0xDBFF then .ok (.inr unit)
    else .ok (.inl (.ofNat unit))
  | some first =>
    if 0xDC00 ≤ unit ∧ unit ≤ 0xDFFF then
      .ok (.inl (.ofNat (0x10000 + (first - 0xD800) * 0x400 + (unit - 0xDC00))))
    else .error .loneSurrogate

/-- Reads the body of a string up to its closing quote; `seen` holds the characters so far, the last
one first. -/
def stringBody : List Char → Position → Stage → List Char → Except SyntaxError (String × Cursor)
  | [], p, _, _ => .error ⟨.stringEnds, p⟩
  | c :: rest, p, stage, seen =>
    match stage with
    | .plain =>
      if c = '"' then .ok (String.ofList seen.reverse, ⟨rest, p.past c⟩)
      else if c = '\\' then stringBody rest (p.past c) .escape seen
      else if c < ' ' then .error ⟨.controlCharacter, p.past c⟩
      else stringBody rest (p.past c) .plain (c :: seen)
    | .escape =>
      if c = 'u' then stringBody rest (p.past c) (.hex none (some 0) 0) seen
      else match escaped? c with
        | some x => stringBody rest (p.past c) .plain (x :: seen)
        | none => .error ⟨.badEscape, p.pastByte c⟩
    | .hex lead value bytes =>
      let value := do pure ((← value) * 16 + (← Text.hexValue? c))
      let total := bytes + c.utf8Size
      if total < 4 then stringBody rest (p.past c) (.hex lead value total) seen
      else
        let after := p.pastBytes c (4 - bytes)
        match value with
        | none => .error ⟨.badEscape, after⟩
        | some unit => match closeHex lead unit with
          | .error fault => .error ⟨fault, after⟩
          | .ok (.inl x) => stringBody rest (p.past c) .plain (x :: seen)
          | .ok (.inr first) => stringBody rest (p.past c) (.lead first) seen
    | .lead unit =>
      if c = '\\' then stringBody rest (p.past c) (.leadEscape unit) seen
      else .error ⟨.surrogateEnds, p.pastByte c⟩
    | .leadEscape unit =>
      if c = 'u' then stringBody rest (p.past c) (.hex (some unit) (some 0) 0) seen
      else .error ⟨.surrogateEnds, p.pastByte c⟩

end GroundLink.Json
