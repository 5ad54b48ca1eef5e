import GroundLink.Client.Error
import GroundLink.Connection.Dispatcher

/-!
# Exchanges

A caller queues a request and waits for the reply, but no longer than the reply may take. Callers
that find the queue full stand in line.
-/

namespace GroundLink.Connection

open Protocol

/-- What a caller finds when it looks after something that takes time. -/
inductive Poll (σ α : Type) where
  /-- It goes on from here. -/
  | pending (state : σ)
  | ready (result : Except Client.Error α)

/-! ### Queueing -/

/-- What becomes of a command that is to be queued. -/
inductive Queueing where
  | queued
  | full
  /-- The dispatcher has stopped. -/
  | closed
deriving DecidableEq, Repr

namespace Channel

/-- A ticket that has not been given out before. -/
def newTicket (ch : Channel) : Ticket × Channel :=
  (⟨ch.nextTicket⟩, { ch with nextTicket := ch.nextTicket + 1 })

/-- Leaves the line. -/
def leaveLine (t : Ticket) (ch : Channel) : Channel := { ch with line := ch.line.filter (· ≠ t) }

/-- Whether a caller is the next one to queue a command. -/
def isNext (t : Ticket) (ch : Channel) : Bool :=
  match ch.line with
  | [] => true
  | first :: _ => first = t

/-- Queues a command, or stands in line. -/
def enqueue (t : Ticket) (command : Command) (ch : Channel) : Queueing × Channel :=
  if ch.isStopped then (.closed, ch.leaveLine t)
  else if ch.commands.length < ch.commandRoom && ch.isNext t then
    (.queued, { ch.leaveLine t with commands := ch.commands ++ [command] })
  else (.full, if ch.line.elem t then ch else { ch with line := ch.line ++ [t] })

/-- The caller waits no more, and wants no events. -/
def forsake (t : Ticket) (ch : Channel) : Channel :=
  ch.updateMailbox t fun m => { m with waiting := false, reply := none, listening := false }

end Channel

/-! ### Waiting -/

/-- Where a request of a caller stands. -/
inductive Stage where
  /-- It has not been queued. -/
  | queueing
  /-- Its reply has to come by then. -/
  | awaiting (deadline : Nat)
deriving DecidableEq, Repr

/-- A request of a caller. Times count nanoseconds. -/
structure Exchange where
  ticket : Ticket
  request : Request
  /-- Whether the events of a call that it opens are wanted. -/
  routed : Bool
  stage : Stage
deriving DecidableEq, Repr

namespace Exchange

/-- A new request of a caller. -/
def start (request : Request) (routed : Bool) (ch : Channel) : Exchange × Channel :=
  let (t, ch) := ch.newTicket
  (⟨t, request, routed, .queueing⟩,
    { ch with mailboxes := ch.mailboxes.insert t (.start routed) })

/-- What the dispatcher is asked. -/
def command (x : Exchange) : Command := .send x.request (some ⟨x.ticket, x.routed⟩)

/-- Looks after the reply of a request that has been queued. -/
def await (timeout : Time.Span) (now deadline : Nat) (x : Exchange) (ch : Channel) :
    Poll Exchange Reply × Channel :=
  match (ch.mailbox x.ticket).reply with
  | some reply => match reply.rejection with
    | some r => (.ready (.error (.server x.request.typeName r)), ch.forsake x.ticket)
    | none => (.ready (.ok reply),
        ch.updateMailbox x.ticket fun m => { m with waiting := false, reply := none })
  | none =>
    if !ch.mayAnswer x.ticket then (.ready (.error .closed), ch.forsake x.ticket)
    else if deadline ≤ now then
      (.ready (.error (.timeout x.request.typeName timeout)), ch.forsake x.ticket)
    else (.pending { x with stage := .awaiting deadline }, ch)

/-- Looks after a request. -/
def poll (timeout : Time.Span) (now : Nat) (x : Exchange) (ch : Channel) :
    Poll Exchange Reply × Channel :=
  match x.stage with
  | .awaiting deadline => await timeout now deadline x ch
  | .queueing => match ch.enqueue x.ticket x.command with
    | (.queued, ch) => await timeout now (now + timeout.nanos) x ch
    | (.full, ch) => (.pending x, ch)
    | (.closed, ch) => (.ready (.error .closed), ch.forsake x.ticket)

/-- Gives a request up. -/
def abandon (x : Exchange) (ch : Channel) : Channel := (ch.leaveLine x.ticket).forsake x.ticket

end Exchange

end GroundLink.Connection
