/-!
# Punycode

A label with letters outside ASCII is written as its ASCII characters followed by where the others
are to be put in.
-/

namespace GroundLink.Url.Punycode

/-- The character of a digit in base 36. -/
def digitChar (d : Nat) : Char := Char.ofNat (if d < 26 then 'a'.toNat + d else '0'.toNat + d - 26)

/-- The value of a digit in base 36. -/
def digitValue? (c : Char) : Option Nat :=
  if c.isDigit then some (c.toNat - '0'.toNat + 26)
  else if c.isLower then some (c.toNat - 'a'.toNat)
  else if c.isUpper then some (c.toNat - 'A'.toNat)
  else none

/-- The threshold of the digit at a position, under a bias. -/
def threshold (k bias : Nat) : Nat :=
  if k ≤ bias + 1 then 1 else if bias + 26 ≤ k then 26 else k - bias

/-- Divides by 35 until at most 455 are left, and counts how often. -/
def settle : Nat → Nat → Nat → Nat × Nat
  | 0, delta, k => (delta, k)
  | fuel + 1, delta, k => if 455 < delta then settle fuel (delta / 35) (k + 36) else (delta, k)

/-- The bias behind a distance. -/
def adapt (delta points : Nat) (first : Bool) : Nat :=
  let delta := if first then delta / 700 else delta / 2
  let (delta, k) := settle delta (delta + delta / points) 0
  k + 36 * delta / (delta + 38)

/-! ### Encoding -/

/-- A distance as digits of varying weight. -/
def distance : Nat → Nat → Nat → Nat → List Char
  | 0, _, _, q => [digitChar q]
  | fuel + 1, bias, k, q =>
    let t := threshold k bias
    if q < t then [digitChar q]
    else digitChar (t + (q - t) % (36 - t)) :: distance fuel bias (k + 36) ((q - t) / (36 - t))

/-- How far the encoding has come. -/
structure Progress where
  delta : Nat
  bias : Nat
  handled : Nat
  out : List Char

/-- Encodes the places of one code point. -/
def encodePoint (basic point : Nat) (cs : List Nat) (p : Progress) : Progress :=
  cs.foldl
    (fun p c =>
      if c < point then { p with delta := p.delta + 1 }
      else if c = point then
        ⟨0, adapt p.delta (p.handled + 1) (p.handled = basic), p.handled + 1,
          p.out ++ distance p.delta p.bias 36 p.delta⟩
      else p)
    p

/-- Encodes all code points from the least one up. -/
def encodePoints (basic : Nat) (cs : List Nat) : List Nat → Nat → Progress → List Char
  | [], _, p => p.out
  | m :: points, n, p =>
    let p := encodePoint basic m cs { p with delta := p.delta + (m - n) * (p.handled + 1) }
    encodePoints basic cs points (m + 1) { p with delta := p.delta + 1 }

/-- Encodes a label. -/
def encode (cs : List Char) : List Char :=
  let basic := cs.filter (·.toNat < 128)
  let points := ((cs.map Char.toNat).filter (128 ≤ ·)).mergeSort.eraseDups
  let start := if basic.isEmpty then [] else basic ++ ['-']
  encodePoints basic.length (cs.map Char.toNat) points 128 ⟨0, 72, basic.length, start⟩

/-! ### Decoding -/

/-- Reads a distance: its value, and what is left. The weight of a digit has at most 32 bits. -/
def readDistance : List Char → Nat → Nat → Nat → Nat → Option (Nat × List Char)
  | [], _, _, _, _ => none
  | c :: cs, bias, k, weight, value => do
    let d ← digitValue? c
    let t := threshold k bias
    let value := value + d * weight
    if d < t then return (value, cs)
    else if weight * (36 - t) < UInt32.size then
      readDistance cs bias (k + 36) (weight * (36 - t)) value
    else none

/-- Reads the characters that are to be put into `out`, from code point `n` and place `i` on. -/
def decodePoints : Nat → List Char → Nat → Nat → Nat → List Char → Option (List Char)
  | 0, _, _, _, _, _ => none
  | _ + 1, [], _, _, _, out => some out
  | fuel + 1, c :: cs, n, i, bias, out => do
    let (value, rest) ← readDistance (c :: cs) bias 36 1 0
    let points := out.length + 1
    let n := n + (i + value) / points
    let place := (i + value) % points
    if n.isValidChar then
      decodePoints fuel rest n (place + 1) (adapt value points (i = 0))
        (out.take place ++ Char.ofNat n :: out.drop place)
    else none

/-- Decodes a label; the last hyphen ends its ASCII characters. -/
def decode? (cs : List Char) : Option (List Char) :=
  let tail := (cs.reverse.takeWhile (· ≠ '-')).reverse
  let basic := (cs.take (cs.length - tail.length)).dropLast
  decodePoints (tail.length + 1) tail 128 0 72 basic

end GroundLink.Url.Punycode
