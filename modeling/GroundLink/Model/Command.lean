import GroundLink.Model.Value

/-!
# Command history

An entry of the command history is complete or partial: updates for one command arrive repeatedly
and carry the attributes that are known so far.
-/

namespace GroundLink.Model

open Schema

/-- What identifies a command. -/
structure CommandId where
  generated : Time.Instant
  origin : String
  sequenceNumber : Int64
  commandName : String
deriving DecidableEq, Inhabited

namespace CommandId

/-- How the identity of a command is read. -/
def fields : Fields CommandId :=
  mk <$> .required "generationTime" instant <*> .required "origin" string
    <*> .required "sequenceNumber" int64 <*> .required "commandName" string

/-- Reads the identity of a command. -/
def read : Reader CommandId := fields.read "CommandId" .direct

/-- The identity of a command as JSON. -/
def json (c : CommandId) : Json :=
  .record [("generationTime", some (.string c.generated.text)),
    ("origin", some (.string c.origin)), ("sequenceNumber", some (.int c.sequenceNumber.toInt)),
    ("commandName", some (.string c.commandName))]

end CommandId

/-- A named value that the server attached to a command. -/
structure Attribute where
  name : String
  value : Value
deriving Inhabited

namespace Attribute

/-- How an attribute is read. -/
def fields : Fields Attribute :=
  mk <$> .required "name" string <*> .required "value" Value.read

/-- Reads an attribute. -/
def read : Reader Attribute := fields.read "CommandAttribute" .direct

/-- An attribute as JSON. -/
def json (a : Attribute) : Json :=
  .record [("name", some (.string a.name)), ("value", some a.value.json)]

end Attribute

/-- The value of one argument of a command. -/
structure Assignment where
  name : String
  value : Value
  userInput : Bool
deriving Inhabited

namespace Assignment

/-- How an assignment is read. -/
def fields : Fields Assignment :=
  mk <$> .required "name" string <*> .required "value" Value.read
    <*> .withDefault "userInput" bool false

/-- Reads an assignment. -/
def read : Reader Assignment := fields.read "CommandAssignment" .direct

/-- An assignment as JSON. -/
def json (a : Assignment) : Json :=
  .record [("name", some (.string a.name)), ("value", some a.value.json),
    ("userInput", some (.bool a.userInput))]

end Assignment

/-- An entry of the command history. -/
structure CommandEntry where
  id : String
  commandName : String
  aliases : Option (List (String × String))
  origin : String
  sequenceNumber : Option Int64
  commandId : Option CommandId
  attributes : List Attribute
  generated : Time.Instant
  assignments : Option (List Assignment)
deriving Inhabited

namespace CommandEntry

/-- The value of the first attribute with a name. -/
def attribute? (entry : CommandEntry) (name : String) : Option Value :=
  (entry.attributes.find? (·.name = name)).map (·.value)

/-- How an entry is read. -/
def fields : Fields CommandEntry :=
  mk <$> .required "id" string <*> .required "commandName" string
    <*> .maybe "aliases" (members .ok string) <*> .required "origin" string
    <*> .maybe "sequenceNumber" int64 <*> .maybe "commandId" CommandId.read
    <*> .withDefault "attr" (list Attribute.read) [] <*> .required "generationTime" instant
    <*> .maybe "assignments" (list Assignment.read)

/-- Reads an entry. -/
def read : Reader CommandEntry := fields.read "CommandHistoryEntry" .direct

/-- An entry as JSON. -/
def json (e : CommandEntry) : Json :=
  .record [("id", some (.string e.id)), ("commandName", some (.string e.commandName)),
    ("aliases", e.aliases.map fun names => .object (names.map fun (k, v) => (k, .string v))),
    ("origin", some (.string e.origin)),
    ("sequenceNumber", e.sequenceNumber.map fun n => .int n.toInt),
    ("commandId", e.commandId.map CommandId.json),
    ("attr", some (.array (e.attributes.map Attribute.json))),
    ("generationTime", some (.string e.generated.text)),
    ("assignments", e.assignments.map fun xs => .array (xs.map Assignment.json))]

end CommandEntry

end GroundLink.Model
