import GroundLink.Model.Name
import GroundLink.Model.Value

/-!
# Parameters

The server numbers the parameters of a subscription, announces the numbers in a mapping, and refers
to them in the values that follow.
-/

namespace GroundLink.Model

open Schema

/-- One value of a numbered parameter. -/
structure ParameterValue where
  id : UInt32
  raw : Option Value
  eng : Value
  generated : Time.Instant
  acquired : Option Time.Instant
deriving Inhabited

namespace ParameterValue

/-- How a parameter value is read. -/
def fields : Fields ParameterValue :=
  mk <$> .required "numericId" uint32 <*> .maybe "rawValue" Value.read
    <*> .required "engValue" Value.read <*> .required "generationTime" instant
    <*> .maybe "acquisitionTime" instant

/-- Reads a parameter value. -/
def read : Reader ParameterValue := fields.read "ParameterValue" .direct

/-- A parameter value as JSON. -/
def json (v : ParameterValue) : Json :=
  .record [("numericId", some (.nat v.id.toNat)), ("rawValue", v.raw.map Value.json),
    ("engValue", some v.eng.json), ("generationTime", some (.string v.generated.text)),
    ("acquisitionTime", v.acquired.map fun t => .string t.text)]

end ParameterValue

/-! ### Mappings -/

/-- Names of numbered parameters, in the order of the numbers. -/
abbrev Mapping := List (UInt32 × ObjectName)

namespace Mapping

/-- The name of a number. -/
def find? (id : UInt32) : Mapping → Option ObjectName
  | [] => none
  | (k, name) :: rest => if k = id then some name else find? id rest

/-- Names a number, whatever its name was before. -/
def insert (id : UInt32) (name : ObjectName) : Mapping → Mapping
  | [] => [(id, name)]
  | (k, n) :: rest =>
    if id = k then (id, name) :: rest
    else if id < k then (id, name) :: (k, n) :: rest
    else (k, n) :: insert id name rest

/-- A mapping with the names of another one put over its own. -/
def union (known new : Mapping) : Mapping := new.foldl (fun m (id, name) => insert id name m) known

/-- Reads a mapping. -/
def read : Reader Mapping := fun j =>
  (members numericKey (ObjectName.read .direct) j).map fun ms => union [] ms

/-- A mapping as JSON. -/
def json (m : Mapping) : Json :=
  .object (m.map fun (id, name) => (String.ofList (Decimal.digitsOf id.toNat), name.json))

end Mapping

/-! ### Frames of a subscription -/

/-- What one frame of a parameter subscription brings. -/
structure ParameterData where
  mapping : Option Mapping
  values : Option (List ParameterValue)
deriving Inhabited

namespace ParameterData

/-- How parameter data is read. -/
def fields : Fields ParameterData :=
  mk <$> .maybe "mapping" Mapping.read <*> .maybe "values" (list ParameterValue.read)

/-- Reads parameter data. -/
def read : Reader ParameterData := fields.read "ParameterData" .direct

/-- Parameter data as JSON. -/
def json (d : ParameterData) : Json :=
  .record [("mapping", d.mapping.map Mapping.json),
    ("values", d.values.map fun vs => .array (vs.map ParameterValue.json))]

end ParameterData

end GroundLink.Model
