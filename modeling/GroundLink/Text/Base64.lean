/-!
# Base64

The alphabet with `+` and `/`, padded with `=` to full quads. Only the canonical form is read: the
padding has to be there, and the bits of the last symbol that belong to no byte have to be zero.
-/

namespace GroundLink.Text.Base64

/-- The symbol of six bits. -/
def symbol (n : Nat) : Char :=
  if n < 26 then .ofNat ('A'.toNat + n)
  else if n < 52 then .ofNat ('a'.toNat + (n - 26))
  else if n < 62 then .ofNat ('0'.toNat + (n - 52))
  else if n = 62 then '+' else '/'

/-- The six bits of a symbol, given as a byte of the text. -/
def value? (byte : Nat) : Option Nat :=
  if 65 ≤ byte ∧ byte ≤ 90 then some (byte - 65)
  else if 97 ≤ byte ∧ byte ≤ 122 then some (byte - 97 + 26)
  else if 48 ≤ byte ∧ byte ≤ 57 then some (byte - 48 + 52)
  else if byte = 43 then some 62
  else if byte = 47 then some 63
  else none

/-! ### Writing -/

/-- The symbols of some bytes, with their padding. -/
def encode : List UInt8 → List Char
  | [] => []
  | [a] =>
    let n := a.toNat * 16
    [symbol (n / 64), symbol (n % 64), '=', '=']
  | [a, b] =>
    let n := (a.toNat * 256 + b.toNat) * 4
    [symbol (n / 4096), symbol (n / 64 % 64), symbol (n % 64), '=']
  | a :: b :: c :: rest =>
    let n := (a.toNat * 256 + b.toNat) * 256 + c.toNat
    symbol (n / 262144) :: symbol (n / 4096 % 64) :: symbol (n / 64 % 64) :: symbol (n % 64)
      :: encode rest

/-! ### Reading -/

/-- Why a text is not canonical base64. -/
inductive Fault where
  | badSymbol (offset : Nat) (byte : Nat)
  | badLength (length : Nat)
  | badLastSymbol (offset : Nat) (byte : Nat)
  | badPadding
deriving DecidableEq, Repr

/-- The wording of a fault. -/
def Fault.message : Fault → String
  | .badSymbol offset byte =>
    "Invalid symbol " ++ toString byte ++ ", offset " ++ toString offset ++ "."
  | .badLength length => "Invalid input length: " ++ toString length
  | .badLastSymbol offset byte =>
    "Invalid last symbol " ++ toString byte ++ ", offset " ++ toString offset ++ "."
  | .badPadding => "Invalid padding"

/-- The padding character. -/
def pad : Nat := 61

/-- The bits of a symbol at an offset. -/
def bitsAt (offset byte : Nat) : Except Fault Nat :=
  match value? byte with
  | some n => .ok n
  | none => .error (.badSymbol offset byte)

/-- The symbols and the padding of the last quad. Padding comes behind two symbols or more, and
nothing but padding follows it. -/
def splitLast (start : Nat) :
    List Nat → Nat → List Nat → Option Nat → Except Fault (List Nat × Nat)
  | [], index, bits, padStart => .ok (bits, (padStart.map (index - ·)).getD 0)
  | b :: rest, index, bits, padStart =>
    if b = pad then
      if index < 2 then .error (.badSymbol (start + index) b)
      else splitLast start rest (index + 1) bits (some (padStart.getD index))
    else match padStart with
      | some first => .error (.badSymbol (start + first) pad)
      | none => do
        let n ← bitsAt (start + index) b
        splitLast start rest (index + 1) (bits ++ [n]) none

/-- Reads the last quad, which begins at `start` and may be short. -/
def decodeLast (start : Nat) (last : List Nat) : Except Fault (List UInt8) := do
  let (bits, padding) ← splitLast start last 0 [] none
  if bits.length < 2 then throw (.badLength (start + bits.length))
  if (bits.length + padding) % 4 ≠ 0 then throw .badPadding
  match bits with
  | [a, b] =>
    let n := a * 64 + b
    if n % 16 ≠ 0 then throw (.badLastSymbol (start + 1) ((last[1]?).getD 0))
    return [.ofNat (n / 16)]
  | [a, b, c] =>
    let n := (a * 64 + b) * 64 + c
    if n % 4 ≠ 0 then throw (.badLastSymbol (start + 2) ((last[2]?).getD 0))
    return [.ofNat (n / 1024), .ofNat (n / 4)]
  | [a, b, c, d] =>
    let n := ((a * 64 + b) * 64 + c) * 64 + d
    return [.ofNat (n / 65536), .ofNat (n / 256), .ofNat n]
  | _ => return []

/-- Reads quads, the last of them apart. -/
def decodeQuads : Nat → List Nat → Except Fault (List UInt8)
  | start, a :: b :: c :: d :: e :: rest => do
    let w ← bitsAt start a
    let x ← bitsAt (start + 1) b
    let y ← bitsAt (start + 2) c
    let z ← bitsAt (start + 3) d
    let n := ((w * 64 + x) * 64 + y) * 64 + z
    let tail ← decodeQuads (start + 4) (e :: rest)
    return .ofNat (n / 65536) :: .ofNat (n / 256) :: .ofNat n :: tail
  | start, last => decodeLast start last

/-- Reads bytes from their base64 form. A stray byte behind the last full quad is reported first. -/
def decode (text : List UInt8) : Except Fault (List UInt8) :=
  let bytes := text.map UInt8.toNat
  let last := bytes.getLast?.getD pad
  if bytes = [] then .ok []
  else if bytes.length % 4 = 1 ∧ last ≠ pad ∧ value? last = none then
    .error (.badSymbol (bytes.length - 1) last)
  else decodeQuads 0 bytes

end GroundLink.Text.Base64
