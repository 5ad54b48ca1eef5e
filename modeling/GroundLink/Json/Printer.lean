import GroundLink.Decimal.Style
import GroundLink.Json.Basic

/-!
# Writing JSON

A value is written without blanks. Inside strings the quote, the backslash and the control
characters are escaped and every other character is written as it is.
-/

namespace GroundLink.Json

/-! ### Strings -/

/-- A digit of a hexadecimal escape. -/
def hexDigit (n : Nat) : Char := (Nat.digitChar n)

/-- A character inside a string. -/
def escapeChar (c : Char) : List Char :=
  if c = '"' then ['\\', '"']
  else if c = '\\' then ['\\', '\\']
  else if c = '\x08' then ['\\', 'b']
  else if c = '\t' then ['\\', 't']
  else if c = '\n' then ['\\', 'n']
  else if c = '\x0c' then ['\\', 'f']
  else if c = '\r' then ['\\', 'r']
  else if c < ' ' then ['\\', 'u', '0', '0', hexDigit (c.toNat / 16), hexDigit (c.toNat % 16)]
  else [c]

/-- A string between its quotes. -/
def stringChars (s : String) : List Char :=
  '"' :: (s.toList.flatMap escapeChar ++ ['"'])

/-! ### Values -/

/-- A number; one that is not finite is written as null. -/
def Number.chars : Number → List Char
  | .int n => Decimal.intChars n
  | .float x => (Decimal.floatChars x).getD ['n', 'u', 'l', 'l']
  | .single x => (Decimal.float32Chars x).getD ['n', 'u', 'l', 'l']

mutual

/-- A value as a list of characters. -/
def chars : Json → List Char
  | .null => ['n', 'u', 'l', 'l']
  | .bool true => ['t', 'r', 'u', 'e']
  | .bool false => ['f', 'a', 'l', 's', 'e']
  | .number n => n.chars
  | .string s => stringChars s
  | .array items => '[' :: itemChars items
  | .object members => '{' :: memberChars members

/-- The items of a list and its closing bracket. -/
def itemChars : List Json → List Char
  | [] => [']']
  | [x] => chars x ++ [']']
  | x :: y :: rest => chars x ++ ',' :: itemChars (y :: rest)

/-- The members of an object and its closing brace. -/
def memberChars : List (String × Json) → List Char
  | [] => ['}']
  | [(key, x)] => stringChars key ++ ':' :: (chars x ++ ['}'])
  | (key, x) :: m :: rest => stringChars key ++ ':' :: (chars x ++ ',' :: memberChars (m :: rest))

end

/-- An object of the members that are present, in the order given. -/
def record (members : List (String × Option Json)) : Json :=
  .object (members.filterMap fun (key, value) => value.map (key, ·))

/-- A value as text. -/
def text (value : Json) : String := String.ofList value.chars

end GroundLink.Json
