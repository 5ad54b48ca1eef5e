import GroundLink.Url.Percent

/-!
# IPv6 addresses

An address is eight pieces of 16 bits. One run of zero pieces may be left out, and the last two
pieces may be written as an IPv4 address.
-/

namespace GroundLink.Url.Ipv6

open Text (hexValue?)

/-! ### Reading -/

/-- Splits up to `limit` hexadecimal digits off, and gives their value and how many they were. -/
def takePiece : Nat → Nat → Nat → List Char → Nat × Nat × List Char
  | 0, taken, value, cs => (taken, value, cs)
  | _ + 1, taken, value, [] => (taken, value, [])
  | limit + 1, taken, value, c :: cs => match hexValue? c with
    | some d => takePiece limit (taken + 1) (16 * value + d) cs
    | none => (taken, value, c :: cs)

/-- The value of a decimal byte without leading zeros. -/
def byte? (cs : List Char) : Option Nat :=
  if cs.isEmpty ∨ !cs.all Char.isDigit ∨ (cs.head? = some '0' ∧ 1 < cs.length) ∨ 3 < cs.length then
    none
  else
    let n := cs.foldl (fun n c => 10 * n + (c.toNat - '0'.toNat)) 0
    if n ≤ 255 then some n else none

/-- The two pieces of an IPv4 address at the end. -/
def ipv4Pieces? (cs : List Char) : Option (List Nat) :=
  match (cs.splitOn '.').mapM byte? with
  | some [a, b, c, d] => some [256 * a + b, 256 * c + d]
  | _ => none

/-- The pieces read so far, last one first, and those before the run of zeros that was left out. -/
structure Partial where
  pieces : List Nat
  beforeGap : Option (List Nat)

namespace Partial

/-- How many pieces have been read; a gap stands for at least one. -/
def count (p : Partial) : Nat :=
  p.pieces.length + match p.beforeGap with
    | some before => before.length + 1
    | none => 0

/-- All eight pieces. -/
def complete? (p : Partial) : Option (List Nat) :=
  match p.beforeGap with
  | some before =>
    if p.count ≤ 8 then
      some (before.reverse ++ List.replicate (8 - before.length - p.pieces.length) 0
        ++ p.pieces.reverse)
    else none
  | none => if p.count = 8 then some p.pieces.reverse else none

end Partial

/-- Reads pieces, each behind what came before it. -/
def readPieces? : Nat → Partial → List Char → Option (List Nat)
  | 0, _, _ => none
  | _ + 1, p, [] => p.complete?
  | fuel + 1, p, c :: cs =>
    if 8 ≤ p.count then none
    else if c = ':' then
      match p.beforeGap with
      | some _ => none
      | none => readPieces? fuel ⟨[], some p.pieces⟩ cs
    else
      let (taken, value, rest) := takePiece 4 0 0 (c :: cs)
      match rest with
      | [] => readPieces? fuel { p with pieces := value :: p.pieces } []
      | '.' :: _ =>
        if taken = 0 ∨ 6 < p.count then none
        else match ipv4Pieces? (c :: cs) with
          | some last => Partial.complete? { p with pieces := last.reverse ++ p.pieces }
          | none => none
      | ':' :: rest =>
        if rest.isEmpty ∨ taken = 0 then none
        else readPieces? fuel { p with pieces := value :: p.pieces } rest
      | _ => none

/-- Reads an address as its pieces. -/
def read? (cs : List Char) : Option (List Nat) :=
  match cs with
  | [] | [_] => none
  | ':' :: ':' :: rest => readPieces? (rest.length + 1) ⟨[], some []⟩ rest
  | ':' :: _ => none
  | cs => readPieces? (cs.length + 1) ⟨[], none⟩ cs

/-! ### Writing -/

/-- The length of the run of zeros that a list begins with. -/
def zeros (pieces : List Nat) : Nat := (pieces.takeWhile (· = 0)).length

/-- Where the longest run of zeros begins and how long it is; of equal ones the first. -/
def longestZeros (pieces : List Nat) : Nat × Nat :=
  (List.range pieces.length).foldl
    (fun best i =>
      let length := zeros (pieces.drop i)
      if best.2 < length then (i, length) else best)
    (0, 0)

/-- Pieces between colons. -/
def joined (pieces : List Nat) : List Char :=
  List.intercalate [':'] (pieces.map (Nat.toDigits 16))

/-- An address as text, with the longest run of at least two zeros left out. -/
def chars (pieces : List Nat) : List Char :=
  let (start, length) := longestZeros pieces
  if 2 ≤ length then
    joined (pieces.take start) ++ ':' :: ':' :: joined (pieces.drop (start + length))
  else joined pieces

end GroundLink.Url.Ipv6
