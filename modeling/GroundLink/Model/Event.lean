import GroundLink.Json.Printer
import GroundLink.Schema.Fields

/-!
# Events

Messages that the server or a spacecraft has raised, ordered by how grave they are.
-/

namespace GroundLink.Model

open Schema

/-- How grave an event is. -/
inductive Severity where
  | info
  | watch
  | warning
  | distress
  | critical
  | severe
deriving DecidableEq, Repr, Inhabited

namespace Severity

/-- The names of the severities on the wire, from the least to the gravest. -/
def names : List (String × Severity) :=
  [("INFO", .info), ("WATCH", .watch), ("WARNING", .warning), ("DISTRESS", .distress),
    ("CRITICAL", .critical), ("SEVERE", .severe)]

/-- The name of a severity. -/
def name : Severity → String
  | .info => "INFO"
  | .watch => "WATCH"
  | .warning => "WARNING"
  | .distress => "DISTRESS"
  | .critical => "CRITICAL"
  | .severe => "SEVERE"

/-- The place of a severity, the least one first. -/
def rank : Severity → Nat
  | .info => 0
  | .watch => 1
  | .warning => 2
  | .distress => 3
  | .critical => 4
  | .severe => 5

instance : Ord Severity := ⟨fun a b => compare a.rank b.rank⟩

/-- Reads a severity. -/
def read : Reader Severity := choice names .direct

end Severity

/-- An event. -/
structure Event where
  source : String
  generated : Time.Instant
  received : Time.Instant
  sequenceNumber : Int64
  kind : Option String
  message : String
  severity : Severity
deriving DecidableEq, Inhabited

namespace Event

/-- How an event is read. -/
def fields : Fields Event :=
  mk <$> .required "source" string <*> .required "generationTime" instant
    <*> .required "receptionTime" instant <*> .required "seqNumber" lenientInt64
    <*> .maybe "type" string <*> .required "message" string
    <*> .required "severity" Severity.read

/-- Reads an event. -/
def read : Reader Event := fields.read "Event" .direct

/-- An event as JSON. -/
def json (e : Event) : Json :=
  .record [("source", some (.string e.source)),
    ("generationTime", some (.string e.generated.text)),
    ("receptionTime", some (.string e.received.text)),
    ("seqNumber", some (.int e.sequenceNumber.toInt)), ("type", e.kind.map .string),
    ("message", some (.string e.message)), ("severity", some (.string e.severity.name))]

end Event

end GroundLink.Model
