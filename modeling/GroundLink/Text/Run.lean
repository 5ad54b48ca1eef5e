import GroundLink.Text.Hexadecimal

/-!
# Runs of code points

A property of characters is given by the runs of code points that have it. A table writes them in
hexadecimal, with blanks between them: `5d0-5ea` is a run with both its ends, and `5bf` a run of
one.
-/

namespace GroundLink.Text

/-- A run of code points, with both its ends. -/
structure Run where
  first : Nat
  last : Nat
deriving DecidableEq, Repr, Inhabited

namespace Run

/-- Whether a code point lies in a run. -/
def contains (r : Run) (n : Nat) : Bool := r.first ≤ n && n ≤ r.last

/-- Whether a code point lies in one of several runs. -/
def covers (runs : List Run) (n : Nat) : Bool := runs.any (·.contains n)

/-- The first class with a run that a code point lies in. -/
def classOf? {α : Type} (classes : List (α × List Run)) (n : Nat) : Option α :=
  (classes.find? fun c => covers c.2 n).map Prod.fst

/-! ### Reading -/

/-- Reads a run. -/
def ofWord (word : List Char) : Run :=
  let last := (word.dropWhile (· ≠ '-')).drop 1
  ⟨hexNumber (word.takeWhile (· ≠ '-')), hexNumber (if last.isEmpty then word else last)⟩

/-- Reads the lines of a table. -/
def readAll (lines : List String) : List Run :=
  lines.flatMap fun line => (line.toList.splitOn ' ').map ofWord

/-- Reads a table with lines of its own for each class. -/
def readClasses {α : Type} (classes : List (α × List String)) : List (α × List Run) :=
  classes.map fun c => (c.1, readAll c.2)

end Run

/-! ### Lemmas -/

namespace Run

theorem contains_iff {r : Run} {n : Nat} : r.contains n = true ↔ r.first ≤ n ∧ n ≤ r.last := by
  simp [contains]

theorem covers_iff {runs : List Run} {n : Nat} :
    covers runs n = true ↔ ∃ r ∈ runs, r.first ≤ n ∧ n ≤ r.last := by
  simp [covers, contains_iff]

end Run

end GroundLink.Text
