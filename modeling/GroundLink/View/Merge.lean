import GroundLink.Model.Command

/-!
# Merging updates of a command

An update carries what is known of a command so far. Of named items the newer one stays, in the
place where its name appeared first.
-/

namespace GroundLink.View

open Model

variable {α : Type}

/-- Puts an item over the one with its name, or behind all others. -/
def put (name : α → String) (x : α) : List α → List α
  | [] => [x]
  | y :: ys => if name y = name x then x :: ys else y :: put name x ys

/-- The items of two lists, one to a name. -/
def mergeNamed (name : α → String) (current incoming : List α) : List α :=
  (current ++ incoming).foldl (fun merged x => put name x merged) []

@[simp] theorem put_nil (name : α → String) (x : α) : put name x [] = [x] := rfl

/-- The assignments of two entries; they are missing only where both entries lack them. -/
def mergeAssignments : Option (List Assignment) → Option (List Assignment) →
    Option (List Assignment)
  | none, none => none
  | current, incoming =>
    some (mergeNamed Assignment.name (current.getD []) (incoming.getD []))

/-- An entry with an update of the same command put over it. -/
def merge (current incoming : CommandEntry) : CommandEntry where
  id := incoming.id
  commandName := incoming.commandName
  aliases := incoming.aliases <|> current.aliases
  origin := incoming.origin
  sequenceNumber := incoming.sequenceNumber <|> current.sequenceNumber
  commandId := incoming.commandId <|> current.commandId
  attributes := mergeNamed Attribute.name current.attributes incoming.attributes
  generated := incoming.generated
  assignments := mergeAssignments current.assignments incoming.assignments

/-! ### Order -/

/-- The entries from the newest to the oldest; entries of one time keep their order. -/
def newestFirst (entries : List CommandEntry) : List CommandEntry :=
  entries.mergeSort fun a b => !a.generated.isBefore b.generated

end GroundLink.View
