import GroundLink.Connection.Fanout
import GroundLink.Protocol.Request
import GroundLink.Traffic

/-!
# Connections

A connection is shared by its callers, by a dispatcher that owns the tables of requests and calls,
and by the server at the far end. They meet in queues: callers queue commands and cancels, the
server queues texts, and the dispatcher writes requests, hands replies to callers and events to
subscriptions.

This module holds what there is of a connection at one moment. Who may do what then is said in the
modules on the dispatcher, on callers and on subscriptions.
-/

namespace GroundLink.Connection

open Protocol

/-- The name of a request of a caller, and of the queue of the events that it may bring. -/
structure Ticket where
  val : Nat
deriving DecidableEq, Repr, Inhabited

/-- What a caller holds of its request. -/
structure Mailbox where
  /-- Whether the caller still waits for the reply. -/
  waiting : Bool
  /-- The reply, from its arrival until the caller takes it. -/
  reply : Option Reply
  /-- Whether events are still wanted. -/
  listening : Bool
  /-- The events that have not been taken yet. -/
  events : List Update
deriving Inhabited

/-- The mailbox of a new request, whose events are wanted or not. -/
def Mailbox.start (routed : Bool) : Mailbox := ⟨true, none, routed, []⟩

/-- The mailbox of a caller who has left. -/
def Mailbox.left : Mailbox := ⟨false, none, false, []⟩

/-- Who waits for a reply, and whether the events of a call that it opens are wanted. -/
structure Waiter where
  ticket : Ticket
  routed : Bool
deriving DecidableEq, Repr, Inhabited

/-- What a caller asks of the dispatcher. -/
inductive Command where
  | send (request : Request) (waiter : Option Waiter)
  | close
deriving DecidableEq, Repr, Inhabited

namespace Command

/-- Whether a command carries the place for the reply of a ticket. -/
def answers (t : Ticket) : Command → Bool
  | .send _ (some w) => w.ticket = t
  | _ => false

/-- Whether a command carries the queue for the events of a ticket. -/
def routes (t : Ticket) : Command → Bool
  | .send _ (some w) => w.ticket = t && w.routed
  | _ => false

end Command

/-- What the dispatcher is at. -/
inductive Phase where
  /-- It takes what is queued. -/
  | ready
  /-- It waits for room to write a request, and sends a frame to the listeners thereafter. -/
  | writing (request : NumberedRequest) (frame : Option Frame)
  | stopped
deriving Inhabited

/-- All there is of a connection. -/
structure Channel where
  /-- How many commands are queued at most. -/
  commandRoom : Nat
  /-- How many texts are queued at most, in each direction. -/
  textRoom : Nat
  /-- The commands that the dispatcher has not taken yet. -/
  commands : List Command
  /-- The callers that wait for room to queue a command, the first one first. -/
  line : List Ticket
  /-- The calls whose subscriptions have been released. -/
  cancels : List CallId
  /-- The texts of the server that the dispatcher has not taken yet. -/
  inbound : List String
  /-- Whether the server may still send. -/
  serverSpeaks : Bool
  /-- All requests that have been written. -/
  written : List NumberedRequest
  /-- How many of them the server has taken. -/
  taken : Nat
  /-- Whether the server still reads. -/
  serverReads : Bool
  phase : Phase
  nextId : RequestId
  /-- The requests that wait for their replies. -/
  pending : Table RequestId Waiter
  /-- Requests for subscriptions whose callers had left before the reply came. -/
  abandoned : List RequestId
  /-- Where the events of the calls go. -/
  routes : Table CallId Ticket
  traffic : Traffic
  mailboxes : Table Ticket Mailbox
  nextTicket : Nat
  fanout : Fanout
  /-- Whether anybody may still queue commands. -/
  held : Bool
deriving Inhabited

namespace Channel

/-- A connection that has just been opened. -/
def start (commandRoom textRoom : Nat) : Channel where
  commandRoom := commandRoom
  textRoom := textRoom
  commands := []
  line := []
  cancels := []
  inbound := []
  serverSpeaks := true
  written := []
  taken := 0
  serverReads := true
  phase := .ready
  nextId := ⟨1⟩
  pending := []
  abandoned := []
  routes := []
  traffic := .none
  mailboxes := []
  nextTicket := 0
  fanout := .start
  held := true

/-- Whether the dispatcher has stopped. -/
def isStopped (ch : Channel) : Bool :=
  match ch.phase with
  | .stopped => true
  | _ => false

/-- The requests that are written and that the server has not taken. -/
def backlog (ch : Channel) : List NumberedRequest := ch.written.drop ch.taken

/-- The mailbox of a ticket. -/
def mailbox (ch : Channel) (t : Ticket) : Mailbox := (ch.mailboxes.find? t).getD .left

/-- Changes a mailbox. -/
def updateMailbox (t : Ticket) (f : Mailbox → Mailbox) (ch : Channel) : Channel :=
  { ch with mailboxes := ch.mailboxes.modify t f }

/-- Whether a reply may still come for a ticket. -/
def mayAnswer (ch : Channel) (t : Ticket) : Bool :=
  ch.commands.any (Command.answers t) || ch.pending.any (·.2.ticket = t)

/-- Whether events may still come for a ticket. -/
def mayDeliver (ch : Channel) (t : Ticket) : Bool :=
  ch.commands.any (Command.routes t) || ch.pending.any (fun p => p.2.ticket = t && p.2.routed)
    || ch.routes.any (·.2 = t)

/-! ### The server -/

/-- What becomes of a text that the server sends. -/
inductive Sending where
  | accepted
  | full
  /-- The dispatcher has stopped. -/
  | closed
  /-- The server has hung up before. -/
  | hungUp
deriving DecidableEq, Repr

/-- The server sends a text. -/
def push (text : String) (ch : Channel) : Sending × Channel :=
  if !ch.serverSpeaks then (.hungUp, ch)
  else if ch.isStopped then (.closed, ch)
  else if ch.inbound.length < ch.textRoom then
    (.accepted, { ch with inbound := ch.inbound ++ [text] })
  else (.full, ch)

/-- The server sends nothing more. -/
def hangUp (ch : Channel) : Channel := { ch with serverSpeaks := false }

/-- The server reads nothing more. -/
def cutWriter (ch : Channel) : Channel := { ch with serverReads := false }

/-- The server takes up to `max` of the requests that are written. -/
def take (max : Nat) (ch : Channel) : List NumberedRequest × Channel :=
  let requests := ch.backlog.take max
  (requests, { ch with taken := ch.taken + requests.length })

end Channel

end GroundLink.Connection
