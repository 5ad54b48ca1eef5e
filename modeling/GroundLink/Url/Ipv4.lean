import GroundLink.Url.Percent

/-!
# IPv4 addresses

An address is written as up to four numbers, decimal, octal or hexadecimal. The last of them fills
the bytes that are left.
-/

namespace GroundLink.Url.Ipv4

open Text (hexValue?)

/-- The value of a digit in a base. -/
def digit? (base : Nat) (c : Char) : Option Nat := (hexValue? c).filter (· < base)

/-- The value of digits in a base. -/
def digits? (base : Nat) (cs : List Char) : Option Nat :=
  cs.foldlM (fun n c => (digit? base c).map (base * n + ·)) 0

/-- The value of a number; one without digits behind its mark of the base is zero. -/
def number? : List Char → Option Nat
  | [] => none
  | '0' :: 'x' :: cs | '0' :: 'X' :: cs => digits? 16 cs
  | '0' :: c :: cs => digits? 8 (c :: cs)
  | cs => digits? 10 cs

/-- The parts between dots, without an empty one at the end. -/
def parts (cs : List Char) : List (List Char) :=
  let all := cs.splitOn '.'
  if all.getLast? = some [] then all.dropLast else all

/-- Whether a host is to be an address: its last part is a number. -/
def isExpected (cs : List Char) : Bool :=
  match (parts cs).getLast? with
  | none => false
  | some last => (!last.isEmpty && last.all Char.isDigit) || (number? last).isSome

/-- The address that numbers stand for. -/
def ofNumbers? (numbers : List Nat) : Option Nat :=
  match numbers.getLast? with
  | none => none
  | some last =>
    let bytes := numbers.dropLast
    let size := 1 <<< (8 * (4 - bytes.length))
    if 4 < numbers.length ∨ size ≤ last ∨ bytes.any (255 < ·) then none
    else some (bytes.foldl (256 * · + ·) 0 * size + last)

/-- Reads an address. -/
def read? (cs : List Char) : Option Nat := (parts cs).mapM number? >>= ofNumbers?

/-- An address as four decimal bytes. -/
def chars (address : Nat) : List Char :=
  let byte (k : Nat) : List Char := Nat.toDigits 10 ((address >>> (8 * k)) % 256)
  byte 3 ++ '.' :: byte 2 ++ '.' :: byte 1 ++ '.' :: byte 0

end GroundLink.Url.Ipv4
