import GroundLink.Connection.Exchange
import GroundLink.Connection.Stream

/-!
# Operations

What callers do with a connection takes time: they send requests, open subscriptions and streams,
ask for the server state, and close the connection. An operation is looked after again and again
until it is through.

A stream with earlier history opens its subscription first and fetches the history thereafter, so
that no update between the two is lost.
-/

namespace GroundLink.Connection

open Model Protocol View

/-! ### Listening -/

namespace Channel

/-- The next frame of a listener. What it has missed is counted. -/
def readFrame (id : ListenerId) (ch : Channel) : Option Frame × Channel :=
  let (reading, fanout) := ch.fanout.read id
  let counted (skipped : Nat) : Channel :=
    { ch with fanout, traffic := ch.traffic.countDropped (.ofNat skipped) }
  match reading with
  | .frame skipped frame => (some frame, counted skipped)
  | .nothing skipped => (none, counted skipped)

/-- Whether a listener may still see a frame. -/
def mayPublish (ch : Channel) : Bool := ch.held || !ch.isStopped

/-- The next frame, as a consumer of frames finds it. -/
def pollFrame (id : ListenerId) (ch : Channel) : Found Frame × Channel :=
  match ch.readFrame id with
  | (some frame, ch) => (.item frame, ch)
  | (none, ch) => (if ch.mayPublish then .pending else .over, ch)

/-- Reads frames until one of them is a server state. -/
def seekState (id : ListenerId) : Nat → Channel → Option ServerState × Channel
  | 0, ch => (none, ch)
  | fuel + 1, ch => match ch.readFrame id with
    | (none, ch) => (none, ch)
    | (some (.state s), ch) => (some s, ch)
    | (some _, ch) => seekState id fuel ch

/-- A new listener. -/
def listen (ch : Channel) : ListenerId × Channel :=
  let (fanout, id) := ch.fanout.listen
  (id, { ch with fanout })

/-- Lets a listener go. -/
def leave (id : ListenerId) (ch : Channel) : Channel :=
  { ch with fanout := ch.fanout.leave id }

end Channel

/-! ### History -/

/-- What the archive answers, and how long it takes. -/
structure History where
  commands : Except Client.Error (List CommandEntry)
  events : Except Client.Error (List Event)
  delay : Time.Span

/-- No earlier history. -/
def History.none : History := ⟨.ok [], .ok [], ⟨0⟩⟩

/-- What operations depend on besides the connection. -/
structure Setting where
  config : Client.Config
  history : History

/-! ### Operations -/

/-- What a caller is at. Times count nanoseconds. -/
inductive Operation where
  | send (x : Exchange)
  /-- A request that opens no subscription. -/
  | refused (request : Request)
  | subscribe (topic : Topic) (x : Exchange)
  | stream (plan : Plan) (topic : Topic) (x : Exchange)
  /-- Waits for the history of a stream until then. -/
  | fetch (plan : Plan) (subscription : Subscription) (due : Nat)
  | askState (ticket : Ticket) (listener : ListenerId)
  /-- Waits for the server state until then. -/
  | awaitState (listener : ListenerId) (deadline : Nat)
  | close (ticket : Ticket)
  /-- Waits until the dispatcher has stopped. -/
  | awaitStop (deadline : Nat)

/-- What comes of an operation. -/
inductive Outcome where
  | sent (call : Option CallId)
  | subscribed (s : Subscription)
  | streaming (s : Stream)
  | state (s : ServerState)
  | closed

namespace Operation

/-! ### Beginnings -/

/-- Sends a request. -/
def startSend (request : Request) (ch : Channel) : Operation × Channel :=
  let (x, ch) := Exchange.start request false ch
  (.send x, ch)

/-- Opens a subscription. -/
def startSubscribe (request : Request) (ch : Channel) : Operation × Channel :=
  match request.topic? with
  | none => (.refused request, ch)
  | some topic =>
    let (x, ch) := Exchange.start request true ch
    (.subscribe topic x, ch)

/-- Opens a stream. -/
def startStream (config : Client.Config) (plan : Plan) (ch : Channel) : Operation × Channel :=
  let request := plan.request config
  match request.topic? with
  | none => (.refused request, ch)
  | some topic =>
    let (x, ch) := Exchange.start request true ch
    (.stream plan topic x, ch)

/-- Asks for the server state. The listener comes first, so that no answer is missed. -/
def startState (ch : Channel) : Operation × Channel :=
  let (listener, ch) := ch.listen
  let (t, ch) := ch.newTicket
  (.askState t listener, ch)

/-- Closes the connection. -/
def startClose (ch : Channel) : Operation × Channel :=
  let (t, ch) := ch.newTicket
  (.close t, ch)

/-! ### Progress -/

/-- How long closing waits for the dispatcher to stop by itself. -/
def grace : Time.Span := .ofSeconds 5

/-- The subscription that a reply opens. -/
def openedBy (topic : Topic) (x : Exchange) (reply : Reply) (ch : Channel) :
    Except Client.Error Subscription × Channel :=
  match reply.call with
  | some call => (.ok (.opened call topic x.ticket), ch)
  | none => (.error (.missingCall topic.name), ch.forsake x.ticket)

/-- What a stream begins with, by what has been fetched. -/
def viewer (s : Setting) : Plan → Except Client.Error Viewer
  | .time => .ok .time
  | .links => .ok .links
  | .commands => s.history.commands.map fun prior => .commands (.ofHistory prior)
  | .commandsAfter prior => .ok (.commands (.ofHistory prior))
  | .parameter name => .ok (.parameter (.start name))
  | .events => s.history.events.map fun prior => .events (.ofHistory s.config.eventWindow prior)
  | .eventsAfter prior => .ok (.events (.ofHistory s.config.eventWindow prior))
  | .raw _ => .ok .raw

/-- Whether a stream needs earlier history. -/
def needsHistory : Plan → Bool
  | .commands | .events => true
  | _ => false

/-- Looks after the history of a stream. Where it cannot be fetched the subscription is let go. -/
def pollFetch (s : Setting) (now : Nat) (plan : Plan) (sub : Subscription) (due : Nat)
    (ch : Channel) : Poll Operation Outcome × Channel :=
  if now < due then (.pending (.fetch plan sub due), ch)
  else match viewer s plan with
    | .ok v => (.ready (.ok (.streaming (.start sub v))), ch)
    | .error e => (.ready (.error e), (sub.release ch).2)

/-- Looks for the server state. -/
def pollState (s : Setting) (now : Nat) (listener : ListenerId) (deadline : Nat) (ch : Channel) :
    Poll Operation Outcome × Channel :=
  match ch.seekState listener (ch.fanout.recent.length + 1) with
  | (some state, ch) => (.ready (.ok (.state state)), ch.leave listener)
  | (none, ch) =>
    if deadline ≤ now then
      (.ready (.error (.timeout "state" s.config.replyTimeout)), ch.leave listener)
    else (.pending (.awaitState listener deadline), ch)

/-- Looks whether the dispatcher has stopped, and stops it where that takes too long. -/
def pollStop (now deadline : Nat) (ch : Channel) : Poll Operation Outcome × Channel :=
  if ch.isStopped then (.ready (.ok .closed), ch)
  else if deadline ≤ now then (.ready (.ok .closed), ch.stop)
  else (.pending (.awaitStop deadline), ch)

/-- Looks after an operation. -/
def poll (s : Setting) (now : Nat) (op : Operation) (ch : Channel) :
    Poll Operation Outcome × Channel :=
  let timeout := s.config.replyTimeout
  match op with
  | .send x => match x.poll timeout now ch with
    | (.pending x, ch) => (.pending (.send x), ch)
    | (.ready (.ok reply), ch) => (.ready (.ok (.sent reply.call)), ch)
    | (.ready (.error e), ch) => (.ready (.error e), ch)
  | .refused request => (.ready (.error (.notASubscription request.typeName)), ch)
  | .subscribe topic x => match x.poll timeout now ch with
    | (.pending x, ch) => (.pending (.subscribe topic x), ch)
    | (.ready (.ok reply), ch) =>
      let (opened, ch) := openedBy topic x reply ch
      (.ready (opened.map .subscribed), ch)
    | (.ready (.error e), ch) => (.ready (.error e), ch)
  | .stream plan topic x => match x.poll timeout now ch with
    | (.pending x, ch) => (.pending (.stream plan topic x), ch)
    | (.ready (.ok reply), ch) => match openedBy topic x reply ch with
      | (.ok sub, ch) =>
        let due := if needsHistory plan then now + s.history.delay.nanos else now
        pollFetch s now plan sub due ch
      | (.error e, ch) => (.ready (.error e), ch)
    | (.ready (.error e), ch) => (.ready (.error e), ch)
  | .fetch plan sub due => pollFetch s now plan sub due ch
  | .askState t listener => match ch.enqueue t (.send .state none) with
    | (.queued, ch) => pollState s now listener (now + timeout.nanos) ch
    | (.full, ch) => (.pending (.askState t listener), ch)
    | (.closed, ch) => (.ready (.error .closed), ch.leave listener)
  | .awaitState listener deadline => pollState s now listener deadline ch
  | .close t => match ch.enqueue t .close with
    | (.full, ch) => (.pending (.close t), ch)
    | (_, ch) => pollStop now (now + grace.nanos) ch
  | .awaitStop deadline => pollStop now deadline ch

/-- Gives an operation up. -/
def abandon (op : Operation) (ch : Channel) : Channel :=
  match op with
  | .send x | .subscribe _ x | .stream _ _ x => x.abandon ch
  | .refused _ | .awaitStop _ => ch
  | .fetch _ sub _ => (sub.release ch).2
  | .askState t listener => (ch.leaveLine t).leave listener
  | .awaitState listener _ => ch.leave listener
  | .close t => ch.leaveLine t

end Operation

end GroundLink.Connection
