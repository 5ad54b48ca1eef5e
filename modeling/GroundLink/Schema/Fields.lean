import GroundLink.Schema.Basic

/-!
# Records

A record is read from an object, by the keys of its fields, or from a list, by their order. Members
under other keys are ignored. Of several refused members the one with the least key is reported, and
a refused member before a missing one.
-/

namespace GroundLink.Schema

/-- A refused member, with its key, or a missing one. -/
structure Failure where
  key : Option String
  error : ReadError

/-- The failure of two that is reported. -/
def Failure.first (a b : Failure) : Failure :=
  match a.key, b.key with
  | some x, some y => if y < x then b else a
  | none, some _ => b
  | _, none => a

/-- Why the items of a list make no record: too few of them, or one that is refused. -/
inductive ItemFailure where
  | short (index : Nat)
  | refused (e : ReadError)

/-- How the fields of a record are read, and their number. -/
structure Fields (α : Type) where
  count : Nat
  ofMembers : List (String × Json) → Except Failure α
  ofItems : Nat → List Json → Except ItemFailure (α × Nat × List Json)

namespace Fields

variable {α β : Type}

/-- The record without fields. -/
protected def pure (a : α) : Fields α where
  count := 0
  ofMembers _ := .ok a
  ofItems index items := .ok (a, index, items)

/-- The fields of one record before those of another. Members of both are read, whatever becomes of
the first. -/
protected def seq (f : Fields (α → β)) (x : Fields α) : Fields β where
  count := f.count + x.count
  ofMembers ms := match f.ofMembers ms, x.ofMembers ms with
    | .ok g, .ok a => .ok (g a)
    | .error a, .error b => .error (a.first b)
    | .error e, .ok _ | .ok _, .error e => .error e
  ofItems index items := do
    let (g, index, items) ← f.ofItems index items
    let (a, index, items) ← x.ofItems index items
    return (g a, index, items)

instance : Applicative Fields where
  pure := Fields.pure
  seq f x := Fields.seq f (x ())

/-- A field; `absent` is what it is without a member, and `unlisted` what it is without an item. A
field without an item counts like one with an item, so that a later field that cannot do without one
is reported by its own place. -/
def field (key : String) (reader : Reader α) (absent unlisted : Option α) : Fields α where
  count := 1
  ofMembers ms := match Json.lookup key ms with
    | some j => match reader j with
      | .ok a => .ok a
      | .error e => .error ⟨some key, e⟩
    | none => match absent with
      | some a => .ok a
      | none => .error ⟨none, .missing key⟩
  ofItems
    | index, j :: items => match reader j with
      | .ok a => .ok (a, index + 1, items)
      | .error e => .error (.refused e)
    | index, [] => match unlisted with
      | some a => .ok (a, index + 1, [])
      | none => .error (.short index)

/-- A field that has to be there. -/
def required (key : String) (reader : Reader α) : Fields α := field key reader none none

/-- A field that is `default` where it is left out. -/
def withDefault (key : String) (reader : Reader α) (default : α) : Fields α :=
  field key reader (some default) (some default)

/-- A field that may be left out or null. -/
def maybe (key : String) (reader : Reader α) : Fields (Option α) :=
  withDefault key (optional reader) none

/-- A field that may be null, and left out of an object but not of a list. -/
def nullable (key : String) (reader : Reader α) : Fields (Option α) :=
  field key (optional reader) (some none) none

/-- A number of elements in words. -/
def elements (n : Nat) : String := toString n ++ if n = 1 then " element" else " elements"

/-- What is expected of a list that is too long. -/
def excess (origin : Origin) (taken : Nat) : String :=
  match origin with
  | .direct => "fewer elements in array"
  | .held => elements taken ++ " in sequence"

/-- Reads a record from a list; `expected` names it where the list is too short. -/
def readItems (fields : Fields α) (expected : String) (origin : Origin) (items : List Json) :
    Except ReadError α :=
  match fields.ofItems 0 items with
  | .error (.short index) =>
    .error (.wrongLength index (expected ++ " with " ++ elements fields.count))
  | .error (.refused e) => .error e
  | .ok (a, taken, rest) =>
    if rest.isEmpty then .ok a else .error (.wrongLength items.length (excess origin taken))

/-- Reads a record from the members of an object. -/
def readMembers (fields : Fields α) (ms : List (String × Json)) : Except ReadError α :=
  (fields.ofMembers ms).mapError Failure.error

/-- Reads a record. -/
def read (fields : Fields α) (name : String) (origin : Origin) : Reader α
  | .object ms => fields.readMembers ms
  | .array items => fields.readItems ("struct " ++ name) origin items
  | j => refuse ("struct " ++ name) j

end Fields

end GroundLink.Schema
