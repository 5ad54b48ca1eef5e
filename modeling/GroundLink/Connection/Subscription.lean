import GroundLink.Connection.Basic

/-!
# Subscriptions

A subscription is the consumer's end of a call: a queue of its events. Releasing it cancels the
call, once. When the dispatcher has stopped, a subscription yields what is left in its queue and
ends.
-/

namespace GroundLink.Connection

open Protocol

/-- The life of a subscription. -/
inductive SubscriptionState where
  | unsubscribed
  | subscribing
  | subscribed
  | unsubscribing
  | closed
deriving DecidableEq, Repr, Inhabited

namespace SubscriptionState

/-- All states. -/
def all : List SubscriptionState :=
  [.unsubscribed, .subscribing, .subscribed, .unsubscribing, .closed]

/-- The name of a state. -/
def name : SubscriptionState → String
  | .unsubscribed => "Unsubscribed"
  | .subscribing => "Subscribing"
  | .subscribed => "Subscribed"
  | .unsubscribing => "Unsubscribing"
  | .closed => "Closed"

/-- The state with a name. -/
def ofName? (name : String) : Option SubscriptionState := all.find? (·.name = name)

/-- Whether one state may follow another. -/
def mayBecome : SubscriptionState → SubscriptionState → Bool
  | .unsubscribed, .subscribing
  | .subscribing, .subscribed
  | .subscribing, .closed
  | .subscribed, .unsubscribing
  | .subscribed, .closed
  | .unsubscribing, .closed => true
  | _, _ => false

end SubscriptionState

/-- The consumer's end of a call. -/
structure Subscription where
  call : CallId
  topic : Topic
  ticket : Ticket
  state : SubscriptionState
deriving DecidableEq, Repr, Inhabited

/-- What a consumer finds. -/
inductive Found (α : Type) where
  | item (a : α)
  | pending
  | over
deriving Repr

namespace Subscription

/-- A subscription to a call that has just been opened. -/
def opened (call : CallId) (topic : Topic) (ticket : Ticket) : Subscription :=
  ⟨call, topic, ticket, .subscribed⟩

/-- Leaves only some events in the queue. -/
def keep (s : Subscription) (events : List Update) (ch : Channel) : Channel :=
  ch.updateMailbox s.ticket fun m => { m with events := events }

/-- What a consumer finds where the queue is empty. -/
def await {α : Type} (s : Subscription) (ch : Channel) : Found α × Subscription :=
  if ch.mayDeliver s.ticket then (.pending, s) else (.over, { s with state := .closed })

/-- The next event. -/
def poll (s : Subscription) (ch : Channel) : Found Update × Subscription × Channel :=
  if s.state ≠ .subscribed then (.over, s, ch)
  else match (ch.mailbox s.ticket).events with
    | u :: rest => (.item u, s, s.keep rest ch)
    | [] =>
      let (found, s) := s.await ch
      (found, s, ch)

/-- Lets a subscription go. -/
def release (s : Subscription) (ch : Channel) : Subscription × Channel :=
  if s.state ≠ .subscribed then (s, ch)
  else
    let ch := ch.updateMailbox s.ticket fun m => { m with listening := false, events := [] }
    if ch.isStopped then ({ s with state := .closed }, ch)
    else ({ s with state := .unsubscribing }, { ch with cancels := ch.cancels ++ [s.call] })

end Subscription

end GroundLink.Connection
