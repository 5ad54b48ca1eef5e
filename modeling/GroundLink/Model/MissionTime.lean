import GroundLink.Json.Printer
import GroundLink.Schema.Fields

/-!
# Mission time

The time of a processor, which is that of the spacecraft or of a replay.
-/

namespace GroundLink.Model

open Schema

/-- An update of the mission time. -/
structure MissionTime where
  value : Time.Instant
deriving DecidableEq, Repr, Inhabited

namespace MissionTime

/-- How the mission time is read. -/
def fields : Fields MissionTime := mk <$> .required "value" instant

/-- Reads the mission time. -/
def read : Reader MissionTime := fields.read "TimeInfo" .direct

/-- The mission time as JSON. -/
def json (t : MissionTime) : Json := .record [("value", some (.string t.value.text))]

end MissionTime

end GroundLink.Model
