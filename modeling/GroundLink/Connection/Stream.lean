import GroundLink.Connection.Subscription
import GroundLink.Client.Config
import GroundLink.View.CommandLog
import GroundLink.View.EventLog
import GroundLink.View.ParameterTracker

/-!
# Streams

A stream is made of a subscription: of each payload it makes an item, or nothing. The streams of
commands and events begin with the earlier history and yield all that is known anew with each
update. Payloads about another topic are skipped.
-/

namespace GroundLink.Connection

open Model Protocol View

/-- What a stream is to yield. -/
inductive Plan where
  | time
  | links
  | commands
  | parameter (name : String)
  | events
  | commandsAfter (prior : List CommandEntry)
  | eventsAfter (prior : List Event)
  | raw (request : Request)
deriving Inhabited

/-- The request that opens a stream. -/
def Plan.request (config : Client.Config) : Plan → Request
  | .time => .time config.instanceName config.processor
  | .links => .links config.instanceName
  | .commands | .commandsAfter _ => .commands config.instanceName config.processor none
  | .parameter name => .parameter config.instanceName config.processor name
  | .events | .eventsAfter _ => .events config.instanceName
  | .raw request => request

/-- What a stream yields. -/
inductive Item where
  | time (t : MissionTime)
  | links (links : List Link)
  | commands (entries : List CommandEntry)
  | parameter (value : ParameterValue)
  | events (events : List Event)
  | update (u : Update)
deriving Inhabited

/-- An item as JSON. -/
def Item.json : Item → Json
  | .time t => t.json
  | .links ls => Link.listJson ls
  | .commands es => .array (es.map CommandEntry.json)
  | .parameter v => v.json
  | .events es => .array (es.map Event.json)
  | .update u => u.payload.json

/-! ### From payloads to items -/

/-- What has been gathered from payloads, as far as items depend on it. -/
inductive Viewer where
  | time
  | links
  | commands (log : CommandLog)
  | parameter (tracker : ParameterTracker)
  | events (log : EventLog)
  | raw
deriving Inhabited

namespace Viewer

/-- What a viewer makes of an update. -/
def apply (v : Viewer) (u : Update) : Option Item × Viewer :=
  match v, u.payload with
  | .raw, _ => (some (.update u), .raw)
  | .time, .time t => (some (.time t), .time)
  | .links, .links ls => (some (.links ls), .links)
  | .commands log, .commands e =>
    let log := log.apply e
    (some (.commands log.snapshot), .commands log)
  | .parameter tracker, .parameters data =>
    let (value, tracker) := tracker.apply data
    (value.map .parameter, .parameter tracker)
  | .events log, .events e =>
    let log := log.push e
    (some (.events log.events), .events log)
  | v, _ => (none, v)

/-- The item before any update. -/
def first? : Viewer → Option Item
  | .commands log => some (.commands log.snapshot)
  | .events log => some (.events log.events)
  | _ => none

/-- The next item that updates make, and the updates that are left. -/
def next (v : Viewer) : List Update → Option Item × Viewer × List Update
  | [] => (none, v, [])
  | u :: rest => match v.apply u with
    | (some item, v) => (some item, v, rest)
    | (none, v) => next v rest

end Viewer

/-! ### Streams -/

/-- A subscription, what has been gathered from it, and an item that comes before all others. -/
structure Stream where
  subscription : Subscription
  viewer : Viewer
  waiting : Option Item
deriving Inhabited

namespace Stream

/-- A stream from the beginning. -/
def start (s : Subscription) (v : Viewer) : Stream := ⟨s, v, v.first?⟩

/-- The next item. -/
def poll (s : Stream) (ch : Channel) : Found Item × Stream × Channel :=
  match s.waiting with
  | some item => (.item item, { s with waiting := none }, ch)
  | none =>
    if s.subscription.state ≠ .subscribed then (.over, s, ch)
    else
      let (item?, viewer, rest) := s.viewer.next (ch.mailbox s.subscription.ticket).events
      let ch := s.subscription.keep rest ch
      match item? with
      | some item => (.item item, { s with viewer }, ch)
      | none =>
        let (found, subscription) := s.subscription.await ch
        (found, { s with viewer, subscription }, ch)

end Stream

end GroundLink.Connection
