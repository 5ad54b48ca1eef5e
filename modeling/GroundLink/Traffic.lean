import GroundLink.Json.Printer
import GroundLink.Protocol.Frame

/-!
# Traffic

How many texts a connection has sent and received, and what the received ones were. Counters have 64
bits.
-/

namespace GroundLink

open Protocol

/-- The counters of a connection. -/
structure Traffic where
  sent : UInt64
  received : UInt64
  replies : UInt64
  exceptions : UInt64
  stateFrames : UInt64
  events : UInt64
  unrouted : UInt64
  unknown : UInt64
  dropped : UInt64
  unknownByKind : List (String × UInt64)
deriving DecidableEq, Repr

namespace Traffic

/-- No traffic. -/
def none : Traffic := ⟨0, 0, 0, 0, 0, 0, 0, 0, 0, []⟩

instance : Inhabited Traffic := ⟨none⟩

/-- One more under a key, in a list in the order of its keys. -/
def tally (key : String) : List (String × UInt64) → List (String × UInt64)
  | [] => [(key, 1)]
  | (k, n) :: rest =>
    if key = k then (k, n + 1) :: rest
    else if key < k then (key, 1) :: (k, n) :: rest
    else (k, n) :: tally key rest

/-! ### Counting -/

/-- Counts a text that was sent. -/
def countSent (t : Traffic) : Traffic := { t with sent := t.sent + 1 }

/-- Counts a text that was received. -/
def countReceived (t : Traffic) : Traffic := { t with received := t.received + 1 }

/-- Counts a reply, and whether it rejects a request. -/
def countReply (rejects : Bool) (t : Traffic) : Traffic :=
  { t with
    replies := t.replies + 1
    exceptions := if rejects then t.exceptions + 1 else t.exceptions }

/-- Counts a server state. -/
def countState (t : Traffic) : Traffic := { t with stateFrames := t.stateFrames + 1 }

/-- Counts an event. -/
def countEvent (t : Traffic) : Traffic := { t with events := t.events + 1 }

/-- Counts an event that nobody listens to. -/
def countUnrouted (t : Traffic) : Traffic := { t with unrouted := t.unrouted + 1 }

/-- Counts an unknown frame under the kind of its fault. -/
def countUnknown (kind : String) (t : Traffic) : Traffic :=
  { t with unknown := t.unknown + 1, unknownByKind := tally kind t.unknownByKind }

/-- Counts frames that a listener has missed. -/
def countDropped (count : UInt64) (t : Traffic) : Traffic :=
  { t with dropped := t.dropped + count }

/-! ### Writing -/

/-- A counter as JSON. -/
def counter (n : UInt64) : Json := .nat n.toNat

/-- The counters as JSON. -/
def json (t : Traffic) : Json :=
  .object [("sent", counter t.sent), ("received", counter t.received),
    ("replies", counter t.replies), ("exceptions", counter t.exceptions),
    ("state_frames", counter t.stateFrames), ("events", counter t.events),
    ("unrouted", counter t.unrouted), ("unknown", counter t.unknown),
    ("dropped", counter t.dropped),
    ("unknown_by_kind", .object (t.unknownByKind.map fun (k, n) => (k, counter n)))]

end Traffic

end GroundLink
