import GroundLink.Connection.Basic

/-!
# The dispatcher

The dispatcher takes queued commands first, then cancels, then texts of the server. It numbers
requests, matches replies to callers by number and events to subscriptions by call. It never waits
for a consumer; the one thing it waits for is room to write.

A caller may give up before its reply comes. If the reply opens a call nevertheless, the dispatcher
cancels the call.
-/

namespace GroundLink.Connection.Channel

open Protocol

/-! ### Writing -/

/-- Stops the dispatcher. What it owns and what is queued for it is gone. -/
def stop (ch : Channel) : Channel :=
  { ch with
    phase := .stopped
    commands := []
    cancels := []
    inbound := []
    pending := []
    abandoned := []
    routes := [] }

/-- Sends a frame to the listeners, if there is one. -/
def publish (frame : Option Frame) (ch : Channel) : Channel :=
  match frame with
  | some f => { ch with fanout := ch.fanout.publish f }
  | none => ch

/-- Writes a request, or waits for room, and sends a frame to the listeners thereafter. -/
def write (r : NumberedRequest) (frame : Option Frame) (ch : Channel) : Channel :=
  if !ch.serverReads then ch.stop
  else if ch.backlog.length < ch.textRoom then
    publish frame { ch with
      phase := .ready
      written := ch.written ++ [r]
      traffic := ch.traffic.countSent }
  else { ch with phase := .writing r frame }

/-! ### Requests -/

/-- Whether nobody waits for a reply any more. -/
def isDeserted (ch : Channel) (w : Waiter) : Bool := !(ch.mailbox w.ticket).waiting

/-- Forgets requests that nobody waits for. Those for subscriptions are kept in mind, as their
replies may open calls. -/
def sweep (ch : Channel) : Channel :=
  let deserted := ch.pending.filter fun p => ch.isDeserted p.2
  { ch with
    pending := ch.pending.filter fun p => !ch.isDeserted p.2
    abandoned := ch.abandoned ++ (deserted.filter (·.2.routed)).map (·.1) }

/-- Remembers who waits for the reply to a request. -/
def expect (id : RequestId) (waiter : Option Waiter) (ch : Channel) : Channel :=
  match waiter with
  | some w => { ch with pending := ch.pending.insert id w }
  | none => ch

/-- Sends a request under the next number. -/
def send (request : Request) (waiter : Option Waiter) (ch : Channel) : Channel :=
  let ch := ch.sweep
  let id := ch.nextId
  write ⟨id, request⟩ none (expect id waiter { ch with nextId := id.next })

/-- Cancels a call; its events go nowhere from now on. -/
def cancel (call : CallId) (frame : Option Frame) (ch : Channel) : Channel :=
  let id := ch.nextId
  write ⟨id, .cancel call⟩ frame { ch with nextId := id.next, routes := ch.routes.erase call }

/-! ### Replies -/

/-- Hands a reply to a caller that waits for it. -/
def answer (t : Ticket) (reply : Reply) (ch : Channel) : Channel :=
  ch.updateMailbox t fun m => { m with reply := some reply }

/-- The call that a reply opens for a subscription. -/
def opened? (w : Waiter) (reply : Reply) : Option CallId :=
  if w.routed && reply.rejection.isNone then reply.call else none

/-- Sends the events of a call that has been opened to a subscription. -/
def openRoute (call : Option CallId) (t : Ticket) (ch : Channel) : Channel :=
  match call with
  | some c => { ch with routes := ch.routes.insert c t }
  | none => ch

/-- Takes the reply to a request that is pending. -/
def resolve (id : RequestId) (w : Waiter) (reply : Reply) (frame : Option Frame) (ch : Channel) :
    Channel :=
  let call := opened? w reply
  let ch := openRoute call w.ticket { ch with pending := ch.pending.erase id }
  if (ch.mailbox w.ticket).waiting then publish frame (answer w.ticket reply ch)
  else match call with
    | some c => cancel c frame ch
    | none => publish frame ch

/-- Takes a reply that no caller waits for. A call that it opens for a caller who has left is
cancelled. -/
def resolveLate (reply : Reply) (frame : Option Frame) (ch : Channel) : Channel :=
  match reply.request with
  | none => publish frame ch
  | some id =>
    if ch.abandoned.elem id then
      let ch := { ch with abandoned := ch.abandoned.filter (· ≠ id) }
      match reply.rejection, reply.call with
      | none, some c => cancel c frame ch
      | _, _ => publish frame ch
    else publish frame ch

/-- Takes a reply. -/
def handleReply (reply : Reply) (frame : Option Frame) (ch : Channel) : Channel :=
  let ch := { ch with traffic := ch.traffic.countReply reply.rejection.isSome }
  match reply.request.bind fun id => (ch.pending.find? id).map (id, ·) with
  | some (id, w) => resolve id w reply frame ch
  | none => resolveLate reply frame ch

/-! ### Events -/

/-- Puts an event into the queue of a subscription. -/
def deliver (t : Ticket) (u : Update) (ch : Channel) : Channel :=
  ch.updateMailbox t fun m => { m with events := m.events ++ [u] }

/-- Takes an event. The route to a subscription that has been released is closed. -/
def handleEvent (u : Update) (ch : Channel) : Channel :=
  let ch := { ch with traffic := ch.traffic.countEvent }
  match ch.routes.find? u.call with
  | none => { ch with traffic := ch.traffic.countUnrouted }
  | some t =>
    if (ch.mailbox t).listening then deliver t u ch
    else { ch with routes := ch.routes.erase u.call, traffic := ch.traffic.countUnrouted }

/-! ### Steps -/

/-- Takes a text of the server. -/
def receive (text : String) (ch : Channel) : Channel :=
  let frame := Frame.decode text
  let copy := if ch.fanout.isHeard then some frame else none
  let ch := { ch with traffic := ch.traffic.countReceived }
  match frame with
  | .reply r => handleReply r copy ch
  | .state _ => publish copy { ch with traffic := ch.traffic.countState }
  | .event u => publish copy (handleEvent u ch)
  | .unknown e => publish copy { ch with traffic := ch.traffic.countUnknown e.kind }

/-- Takes a command. -/
def execute (command : Command) (ch : Channel) : Channel :=
  match command with
  | .send request waiter => send request waiter ch
  | .close => stop ch

/-- One step of the dispatcher, if it need not wait. -/
def step? (ch : Channel) : Option Channel :=
  match ch.phase with
  | .stopped => none
  | .writing r frame =>
    if ch.serverReads && ch.textRoom ≤ ch.backlog.length then none else some (write r frame ch)
  | .ready => match ch.commands, ch.cancels, ch.inbound with
    | c :: rest, _, _ => some (execute c { ch with commands := rest })
    | [], cancels, inbound =>
      if !ch.held then some ch.stop
      else match cancels, inbound with
        | c :: rest, _ => some (cancel c none { ch with cancels := rest })
        | [], text :: rest => some (receive text { ch with inbound := rest })
        | [], [] => if ch.serverSpeaks then none else some ch.stop

/-- A bound on the steps until the dispatcher has to wait. -/
def work (ch : Channel) : Nat :=
  2 * (ch.commands.length + ch.cancels.length + ch.inbound.length) + 2

/-- Runs the dispatcher for up to `fuel` steps. -/
def runFor : Nat → Channel → Channel
  | 0, ch => ch
  | fuel + 1, ch => match ch.step? with
    | some ch => runFor fuel ch
    | none => ch

/-- Runs the dispatcher until it has to wait. -/
def run (ch : Channel) : Channel := runFor ch.work ch

end GroundLink.Connection.Channel
