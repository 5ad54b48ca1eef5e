/-!
# Spans of time

A length of time in nanoseconds, written in the largest unit that it reaches.
-/

namespace GroundLink.Time

/-- A length of time. -/
structure Span where
  nanos : Nat
deriving DecidableEq, Repr, Inhabited

namespace Span

/-- A span of whole milliseconds. -/
def ofMillis (n : Nat) : Span := ⟨n * 1000000⟩

/-- A span of whole seconds. -/
def ofSeconds (n : Nat) : Span := ⟨n * 1000000000⟩

/-- `nanos` in units of `10 ^ places` nanoseconds, without zeros at the end of the fraction. -/
def inUnit (nanos places : Nat) (unit : String) : String :=
  let one := Nat.pow 10 places
  let whole := nanos / one
  let digits := Nat.toDigits 10 (nanos % one)
  let fraction := List.replicate (places - digits.length) '0' ++ digits
  let shown := (fraction.reverse.dropWhile (· = '0')).reverse
  let point := if nanos % one = 0 then [] else '.' :: shown
  toString whole ++ String.ofList point ++ unit

/-- A span as text. -/
def text (d : Span) : String :=
  if 1000000000 ≤ d.nanos then inUnit d.nanos 9 "s"
  else if 1000000 ≤ d.nanos then inUnit d.nanos 6 "ms"
  else if 1000 ≤ d.nanos then inUnit d.nanos 3 "µs"
  else inUnit d.nanos 0 "ns"

end Span

end GroundLink.Time
