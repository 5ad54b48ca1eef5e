import GroundLink.Json.Printer
import GroundLink.Schema.Basic

/-!
# Topics

What a subscription is about.
-/

namespace GroundLink.Protocol

open Schema

/-- What a subscription is about. -/
inductive Topic where
  | time
  | links
  | commands
  | parameters
  | events
deriving DecidableEq, Repr, Inhabited

namespace Topic

/-- All topics. -/
def all : List Topic := [.time, .links, .commands, .parameters, .events]

/-- The name of a topic on the wire. -/
def name : Topic → String
  | .time => "time"
  | .links => "links"
  | .commands => "commands"
  | .parameters => "parameters"
  | .events => "events"

/-- The topic with a name. -/
def ofName? (name : String) : Option Topic := all.find? (·.name = name)

/-- Reads a topic. -/
def read : Reader Topic :=
  choice (all.map fun t => (t.name, t)) .direct

/-- A topic as JSON. -/
def json (t : Topic) : Json := .string t.name

@[simp] theorem ofName?_name (t : Topic) : ofName? t.name = some t := by cases t <;> rfl

end Topic

end GroundLink.Protocol
