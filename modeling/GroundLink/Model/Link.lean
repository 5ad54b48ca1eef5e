import GroundLink.Json.Printer
import GroundLink.Schema.Fields

/-!
# Data links

The state of one data link of the ground station, and of all of them.
-/

namespace GroundLink.Model

open Schema

/-- How the control of an action looks. -/
inductive ActionStyle where
  | pushButton
  | checkBox
deriving DecidableEq, Repr, Inhabited

namespace ActionStyle

/-- The names of the styles on the wire. -/
def names : List (String × ActionStyle) :=
  [("PUSH_BUTTON", .pushButton), ("CHECK_BOX", .checkBox)]

/-- The name of a style. -/
def name : ActionStyle → String
  | .pushButton => "PUSH_BUTTON"
  | .checkBox => "CHECK_BOX"

/-- Reads a style. -/
def read : Reader ActionStyle := choice names .direct

end ActionStyle

/-- An action that a link offers. -/
structure LinkAction where
  id : String
  label : String
  style : ActionStyle
  enabled : Bool
  checked : Bool
deriving DecidableEq, Repr, Inhabited

namespace LinkAction

/-- How an action is read. -/
def fields : Fields LinkAction :=
  mk <$> .required "id" string <*> .required "label" string
    <*> .required "style" ActionStyle.read <*> .required "enabled" bool
    <*> .withDefault "checked" bool false

/-- Reads an action. -/
def read : Reader LinkAction := fields.read "ActionInfo" .direct

/-- An action as JSON. -/
def json (a : LinkAction) : Json :=
  .record [("id", some (.string a.id)), ("label", some (.string a.label)),
    ("style", some (.string a.style.name)), ("enabled", some (.bool a.enabled)),
    ("checked", some (.bool a.checked))]

end LinkAction

/-- The state of a data link. -/
structure Link where
  instanceName : String
  name : String
  kind : String
  spec : Option String
  disabled : Bool
  status : String
  dataIn : UInt64
  dataOut : UInt64
  detailedStatus : Option String
  parentName : Option String
  actions : Option (List LinkAction)
  parameters : Option (List String)
deriving DecidableEq, Repr, Inhabited

namespace Link

/-- How a link is read. -/
def fields : Fields Link :=
  mk <$> .required "instance" string <*> .required "name" string <*> .required "type" string
    <*> .maybe "spec" string <*> .withDefault "disabled" bool false
    <*> .required "status" string
    <*> .required "dataInCount" lenientUInt64 <*> .required "dataOutCount" lenientUInt64
    <*> .maybe "detailedStatus" string <*> .maybe "parentName" string
    <*> .maybe "actions" (list LinkAction.read) <*> .maybe "parameters" (list string)

/-- Reads a link. -/
def read : Reader Link := fields.read "LinkInfo" .direct

/-- A link as JSON. -/
def json (l : Link) : Json :=
  .record [("instance", some (.string l.instanceName)), ("name", some (.string l.name)),
    ("type", some (.string l.kind)), ("spec", l.spec.map .string),
    ("disabled", some (.bool l.disabled)), ("status", some (.string l.status)),
    ("dataInCount", some (.nat l.dataIn.toNat)), ("dataOutCount", some (.nat l.dataOut.toNat)),
    ("detailedStatus", l.detailedStatus.map .string), ("parentName", l.parentName.map .string),
    ("actions", l.actions.map fun actions => .array (actions.map LinkAction.json)),
    ("parameters", l.parameters.map fun names => .array (names.map .string))]

/-- How the list of all links is read. -/
def listFields : Fields (List Link) := id <$> .withDefault "links" (list read) []

/-- Reads the list of all links. -/
def readAll : Reader (List Link) := listFields.read "LinksPayload" .direct

/-- Some links as a JSON list. -/
def listJson (links : List Link) : Json := .array (links.map json)

/-- The list of all links as it comes from the server. -/
def allJson (links : List Link) : Json := .record [("links", some (listJson links))]

end Link

end GroundLink.Model
