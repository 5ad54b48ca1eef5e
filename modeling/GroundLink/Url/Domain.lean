import GroundLink.Url.Domain.Label

/-!
# Domain names

A name is a row of labels. It is read without regard to case, width and the order of marks, and
written in ASCII. A name that holds text from right to left holds no label of mixed directions.
-/

namespace GroundLink.Url.Domain

/-- Whether a character may not stand in a name. -/
def isForbidden (c : Char) : Bool :=
  c ≤ ' ' || c = '\x7f'
    || ['%', '#', '/', ':', '<', '>', '?', '@', '[', '\\', ']', '^', '|'].elem c

/-- The labels of a name. -/
def labels? (cs : List Char) : Option (List Label) := do
  let read := Text.composed (← readings? cs)
  if read.any isForbidden then none else (read.splitOn '.').mapM Label.read?

/-- Whether labels may stand in one name. -/
def agree (labels : List Label) : Bool :=
  !labels.any (·.text.any isRightToLeft) || labels.all (isOneWay ·.text)

/-- A name as it is written. -/
def ofChars? (cs : List Char) : Option (List Char) := do
  let labels ← labels? cs
  if agree labels then some (List.intercalate ['.'] (labels.map (·.written))) else none

end GroundLink.Url.Domain
