import GroundLink.Json.Printer
import GroundLink.Schema.Fields

/-!
# Names of parameters

A qualified name such as `/flight/altitude`, or a name within a namespace.
-/

namespace GroundLink.Model

open Schema

/-- The name that a parameter is known by. -/
structure ObjectName where
  name : String
  space : Option String
deriving DecidableEq, Repr, Inhabited

namespace ObjectName

/-- How a name is read. -/
def fields : Fields ObjectName :=
  mk <$> .required "name" string <*> .maybe "namespace" string

/-- Reads a name. -/
def read (origin : Origin) : Reader ObjectName := fields.read "NamedObjectId" origin

/-- A name as JSON. -/
def json (n : ObjectName) : Json :=
  .record [("name", some (.string n.name)), ("namespace", n.space.map .string)]

end ObjectName

end GroundLink.Model
