import GroundLink.Proofs.Connection.System
import Mathlib.Logic.Function.Basic

/-!
# Ledgers

A ledger holds what a connection owes to its callers and consumers: the queued commands and cancels,
the tables of the dispatcher, the mailboxes, and who acts on each ticket. Listeners, counters and
the clock are left out. A ledger changes in small steps; each act on a connection is a few of them.
-/

namespace GroundLink.Connection

open Protocol

/-- What a party does with its ticket. -/
inductive Role where
  | none
  | caller (x : Exchange)
  | consumer (s : Subscription)

/-- The ticket of the caller that a command is to be answered to. -/
def Command.ticket? : Command → Option Ticket
  | .send _ (some w) => some w.ticket
  | _ => none

/-- The mailbox of a caller who waits no more. -/
def Mailbox.answered (m : Mailbox) : Mailbox := { m with waiting := false, reply := none }

/-- The mailbox of a caller who waits no more and wants no events. -/
def Mailbox.forsaken (m : Mailbox) : Mailbox :=
  { m with waiting := false, reply := none, listening := false }

/-- The mailbox of a consumer who wants no more events. -/
def Mailbox.closed (m : Mailbox) : Mailbox := { m with listening := false, events := [] }

/-- The call that a reply opens. -/
def accepted (reply : Reply) : Option CallId :=
  if reply.rejection.isNone then reply.call else none

/-- What a connection owes. -/
structure Ledger where
  stopped : Bool
  commands : List Command
  cancels : List CallId
  nextId : RequestId
  pending : Table RequestId Waiter
  abandoned : List RequestId
  routes : Table CallId Ticket
  written : List NumberedRequest
  /-- What is being written. -/
  hand : List NumberedRequest
  mailbox : Ticket → Mailbox
  nextTicket : Nat
  role : Ticket → Role

namespace Ledger

def start : Ledger where
  stopped := false
  commands := []
  cancels := []
  nextId := ⟨1⟩
  pending := []
  abandoned := []
  routes := []
  written := []
  hand := []
  mailbox _ := .left
  nextTicket := 0
  role _ := .none

def setMailbox (t : Ticket) (m : Mailbox) (l : Ledger) : Ledger :=
  { l with mailbox := Function.update l.mailbox t m }

def setRole (t : Ticket) (r : Role) (l : Ledger) : Ledger :=
  { l with role := Function.update l.role t r }

section

variable (t u : Ticket) (m : Mailbox) (r : Role) (l : Ledger)

@[simp, grind =] lemma setMailbox_mailbox :
    (l.setMailbox t m).mailbox u = if u = t then m else l.mailbox u := by
  simp [setMailbox, Function.update_apply]

@[simp, grind =] lemma setMailbox_role : (l.setMailbox t m).role u = l.role u := rfl

@[simp, grind =] lemma setMailbox_stopped : (l.setMailbox t m).stopped = l.stopped := rfl

@[simp, grind =] lemma setMailbox_commands : (l.setMailbox t m).commands = l.commands := rfl

@[simp, grind =] lemma setMailbox_cancels : (l.setMailbox t m).cancels = l.cancels := rfl

@[simp, grind =] lemma setMailbox_nextId : (l.setMailbox t m).nextId = l.nextId := rfl

@[simp, grind =] lemma setMailbox_pending : (l.setMailbox t m).pending = l.pending := rfl

@[simp, grind =] lemma setMailbox_abandoned : (l.setMailbox t m).abandoned = l.abandoned := rfl

@[simp, grind =] lemma setMailbox_routes : (l.setMailbox t m).routes = l.routes := rfl

@[simp, grind =] lemma setMailbox_written : (l.setMailbox t m).written = l.written := rfl

@[simp, grind =] lemma setMailbox_hand : (l.setMailbox t m).hand = l.hand := rfl

@[simp, grind =] lemma setMailbox_nextTicket : (l.setMailbox t m).nextTicket = l.nextTicket := rfl

@[simp, grind =] lemma setRole_role :
    (l.setRole t r).role u = if u = t then r else l.role u := by
  simp [setRole, Function.update_apply]

@[simp, grind =] lemma setRole_mailbox : (l.setRole t r).mailbox u = l.mailbox u := rfl

@[simp, grind =] lemma setRole_stopped : (l.setRole t r).stopped = l.stopped := rfl

@[simp, grind =] lemma setRole_commands : (l.setRole t r).commands = l.commands := rfl

@[simp, grind =] lemma setRole_cancels : (l.setRole t r).cancels = l.cancels := rfl

@[simp, grind =] lemma setRole_nextId : (l.setRole t r).nextId = l.nextId := rfl

@[simp, grind =] lemma setRole_pending : (l.setRole t r).pending = l.pending := rfl

@[simp, grind =] lemma setRole_abandoned : (l.setRole t r).abandoned = l.abandoned := rfl

@[simp, grind =] lemma setRole_routes : (l.setRole t r).routes = l.routes := rfl

@[simp, grind =] lemma setRole_written : (l.setRole t r).written = l.written := rfl

@[simp, grind =] lemma setRole_hand : (l.setRole t r).hand = l.hand := rfl

@[simp, grind =] lemma setRole_nextTicket : (l.setRole t r).nextTicket = l.nextTicket := rfl

end

/-- Whether nobody waits for a reply any more. -/
def isDeserted (l : Ledger) (w : Waiter) : Bool := !(l.mailbox w.ticket).waiting

/-- Requests that nobody waits for are forgotten. -/
def swept (l : Ledger) : Ledger :=
  { l with
    pending := l.pending.filter fun p => !l.isDeserted p.2
    abandoned := l.abandoned
      ++ ((l.pending.filter fun p => l.isDeserted p.2).filter (·.2.routed)).map (·.1) }

def halted (l : Ledger) : Ledger :=
  { l with
    stopped := true
    commands := []
    cancels := []
    pending := []
    abandoned := []
    routes := []
    hand := [] }

/-- Whether events may still come for a ticket. -/
def mayDeliver (l : Ledger) (t : Ticket) : Bool :=
  l.commands.any (Command.routes t) || l.pending.any (fun p => p.2.ticket = t && p.2.routed)
    || l.routes.any (·.2 = t)

/-- A request is numbered, and is being written. -/
def numbering (r : Request) (w : Option Waiter) (rest : List Command) (l : Ledger) : Ledger :=
  { l with
    commands := rest
    nextId := l.nextId.next
    pending := match w with
      | some w => l.pending.insert l.nextId w
      | none => l.pending
    hand := [⟨l.nextId, r⟩] }

def cancelling (c : CallId) (rest : List CallId) (l : Ledger) : Ledger :=
  { l with
    cancels := rest
    nextId := l.nextId.next
    routes := l.routes.erase c
    hand := [⟨l.nextId, .cancel c⟩] }

/-- A pending request has its reply. -/
def resolving (id : RequestId) (w : Waiter) (r : Reply) (l : Ledger) : Ledger :=
  { l with
    pending := l.pending.erase id
    routes := match Channel.opened? w r with
      | some c => l.routes.insert c w.ticket
      | none => l.routes }

/-! ### Steps -/

/-- A step that a ledger takes, and what is noted of it. A reply may take `τ` nanoseconds. -/
inductive Step (τ : Nat) : Ledger → List Note → Ledger → Prop
  /-- A caller comes with a request. -/
  | enter {l : Ledger} (x : Exchange) :
      x.ticket.val = l.nextTicket → x.stage = .queueing →
      Step τ l []
        ({ l with nextTicket := l.nextTicket + 1 }.setMailbox x.ticket (.start x.routed)
          |>.setRole x.ticket (.caller x))
  /-- A ticket is given out for something else. -/
  | ticket {l : Ledger} :
      Step τ l []
        ({ l with nextTicket := l.nextTicket + 1 }.setRole ⟨l.nextTicket⟩ .none)
  | queue {l : Ledger} {t : Ticket} {x : Exchange} (now : Nat) :
      l.stopped = false → l.role t = .caller x → x.ticket = t → x.stage = .queueing →
      Step τ l [.queued t now]
        ({ l with commands := l.commands ++ [x.command] }.setRole t
          (.caller { x with stage := .awaiting (now + τ) }))
  /-- A command without a caller to be answered is queued. -/
  | order {l : Ledger} {c : Command} :
      l.stopped = false → c.ticket? = none →
      Step τ l [] { l with commands := l.commands ++ [c] }
  /-- A caller leaves with an error. -/
  | fail {l : Ledger} {t : Ticket} {x : Exchange} (e : Client.Error) :
      l.role t = .caller x →
      (x.stage = .queueing
        ∨ ∀ r, (l.mailbox t).reply = some r → Channel.opened? ⟨t, x.routed⟩ r = none) →
      Step τ l [.returned t (.error e)]
        ((l.setMailbox t (l.mailbox t).forsaken).setRole t .none)
  /-- A caller leaves with an answer that it wants no events for. -/
  | finish {l : Ledger} {t : Ticket} {x : Exchange} {o : Outcome} :
      l.role t = .caller x → x.routed = false → keeps (.ok o) = false →
      Step τ l [.returned t (.ok o)]
        ((l.setMailbox t (l.mailbox t).answered).setRole t .none)
  | abandon {l : Ledger} {t : Ticket} {x : Exchange} :
      l.role t = .caller x →
      Step τ l [.abandoned t] ((l.setMailbox t (l.mailbox t).forsaken).setRole t .none)
  /-- A caller becomes the consumer of a call. -/
  | «open» {l : Ledger} {t : Ticket} {x : Exchange} {r : Reply} {c : CallId} (topic : Topic) :
      l.role t = .caller x → x.routed = true → (l.mailbox t).reply = some r →
      r.rejection = none → r.call = some c →
      Step τ l []
        ((l.setMailbox t (l.mailbox t).answered).setRole t (.consumer (.opened c topic t)))
  | tell {l : Ledger} {t : Ticket} {result : Except Client.Error Outcome} :
      keeps result = true → Step τ l [.returned t result] l
  /-- A consumer lets its call go. -/
  | release {l : Ledger} {t : Ticket} {s : Subscription} {n : Note} :
      l.role t = .consumer s → s.state = .subscribed →
      (n = .released t ∨ ∃ e, n = .returned t (.error e)) →
      Step τ l [n]
        ({ l with cancels := if l.stopped then l.cancels else l.cancels ++ [s.call] }.setMailbox t
          (l.mailbox t).closed |>.setRole t .none)
  /-- A consumer lets go what has ended by itself. -/
  | drop {l : Ledger} {t : Ticket} {s : Subscription} {n : Note} :
      l.role t = .consumer s → s.state ≠ .subscribed →
      (n = .released t ∨ ∃ e, n = .returned t (.error e)) →
      Step τ l [n] (l.setRole t .none)
  | read {l : Ledger} {t : Ticket} {s : Subscription} {u : Update} {rest : List Update} :
      l.role t = .consumer s → (l.mailbox t).events = u :: rest →
      Step τ l [.yielded t u] (l.setMailbox t { l.mailbox t with events := rest })
  /-- A consumer finds the end. -/
  | close {l : Ledger} {t : Ticket} {s : Subscription} :
      l.role t = .consumer s → (l.mailbox t).events = [] → l.mayDeliver t = false →
      Step τ l [] (l.setRole t (.consumer { s with state := .closed }))
  | sweep {l : Ledger} : l.stopped = false → Step τ l [] l.swept
  | number {l : Ledger} {r : Request} {w : Option Waiter} {rest : List Command} :
      l.stopped = false → l.hand = [] → l.commands = .send r w :: rest →
      Step τ l [.sent ⟨l.nextId, r⟩ w] (l.numbering r w rest)
  | cancel {l : Ledger} {c : CallId} {rest : List CallId} :
      l.stopped = false → l.hand = [] → l.cancels = c :: rest →
      Step τ l [.cancelled l.nextId c] (l.cancelling c rest)
  | write {l : Ledger} {r : NumberedRequest} :
      l.stopped = false → l.hand = [r] →
      Step τ l [] { l with written := l.written ++ [r], hand := [] }
  | stop {l : Ledger} : l.stopped = false → Step τ l [.stopped] l.halted
  /-- A caller gets its reply. -/
  | answer {l : Ledger} {id : RequestId} {w : Waiter} {r : Reply} :
      l.stopped = false → r.request = some id → l.pending.find? id = some w →
      (l.mailbox w.ticket).waiting = true →
      Step τ l [.handled (.reply r)]
        ((l.resolving id w r).setMailbox w.ticket { l.mailbox w.ticket with reply := some r })
  /-- The caller of a pending request is gone. -/
  | late {l : Ledger} {id : RequestId} {w : Waiter} {r : Reply} :
      l.stopped = false → r.request = some id → l.pending.find? id = some w →
      (l.mailbox w.ticket).waiting = false →
      Step τ l [.handled (.reply r)]
        { l.resolving id w r with cancels := (Channel.opened? w r).toList ++ l.cancels }
  /-- The request has been forgotten. -/
  | forgotten {l : Ledger} {id : RequestId} {r : Reply} :
      l.stopped = false → r.request = some id → l.pending.find? id = none → id ∈ l.abandoned →
      Step τ l [.handled (.reply r)]
        { l with
          abandoned := l.abandoned.filter (· ≠ id)
          cancels := (accepted r).toList ++ l.cancels }
  /-- Nobody has asked for a reply. -/
  | pass {l : Ledger} {r : Reply} :
      l.stopped = false →
      (∀ id, r.request = some id → l.pending.find? id = none ∧ id ∉ l.abandoned) →
      Step τ l [.handled (.reply r)] l
  | deliver {l : Ledger} {t : Ticket} {u : Update} :
      l.stopped = false → l.routes.find? u.call = some t → (l.mailbox t).listening = true →
      Step τ l [.handled (.event u)]
        (l.setMailbox t { l.mailbox t with events := (l.mailbox t).events ++ [u] })
  /-- The consumer of an event is gone. -/
  | unroute {l : Ledger} {t : Ticket} {u : Update} :
      l.stopped = false → l.routes.find? u.call = some t → (l.mailbox t).listening = false →
      Step τ l [.handled (.event u)] { l with routes := l.routes.erase u.call }
  | miss {l : Ledger} {u : Update} :
      l.stopped = false → l.routes.find? u.call = none → Step τ l [.handled (.event u)] l
  /-- A frame that is neither a reply nor an event is handled. -/
  | other {l : Ledger} {f : Frame} :
      l.stopped = false → (∀ r, f ≠ .reply r) → (∀ u, f ≠ .event u) →
      Step τ l [.handled f] l

/-- Several steps, and what is noted of them. -/
inductive Steps (τ : Nat) : Ledger → List Note → Ledger → Prop
  | refl (l : Ledger) : Steps τ l [] l
  | tail {l l' l'' : Ledger} {h h' : List Note} :
      Steps τ l h l' → Step τ l' h' l'' → Steps τ l (h ++ h') l''

variable {τ : Nat}

lemma Step.steps {l l' : Ledger} {h : List Note} (hs : Step τ l h l') :
    Steps τ l h l' :=
  .tail (.refl l) hs

lemma Steps.trans {l l' l'' : Ledger} {h h' : List Note} (hs : Steps τ l h l')
    (hs' : Steps τ l' h' l'') : Steps τ l (h ++ h') l'' := by
  induction hs' with
  | refl => simpa using hs
  | tail _ last ih =>
    rw [← List.append_assoc]
    exact .tail ih last

lemma Step.nextTicket {l l' : Ledger} {h : List Note} (hs : Step τ l h l') :
    l.nextTicket ≤ l'.nextTicket := by
  cases hs with
  | enter | ticket => exact Nat.le_succ _
  | _ => exact Nat.le_refl _

/-- Tickets are given out in their order. -/
lemma Steps.nextTicket {l l' : Ledger} {h : List Note} (hs : Steps τ l h l') :
    l.nextTicket ≤ l'.nextTicket := by
  induction hs with
  | refl => exact Nat.le_refl _
  | tail _ last ih => exact Nat.le_trans ih last.nextTicket

/-- What holds at the start, and is kept by every step, holds wherever steps lead. -/
lemma Steps.invariant {P : List Note → Ledger → Prop} (start : P [] .start)
    (step : ∀ {h h' l l'}, Ledger.start.Steps τ h l → P h l → Step τ l h' l' → P (h ++ h') l')
    {h : List Note} {l : Ledger} (hs : Ledger.start.Steps τ h l) : P h l := by
  generalize hstart : Ledger.start = l₀ at hs
  induction hs with
  | refl =>
    subst hstart
    exact start
  | tail first last ih =>
    subst hstart
    exact step first ih last

/-! ### Stopping -/

/-- Nothing is queued, tracked or routed any more. -/
structure Empty (l : Ledger) : Prop where
  commands : l.commands = []
  cancels : l.cancels = []
  pending : l.pending = []
  abandoned : l.abandoned = []
  routes : l.routes = []
  hand : l.hand = []

/-- Once the dispatcher has stopped, it stays empty. -/
lemma Step.empty {l l' : Ledger} {h : List Note} (hl : l.stopped = true → l.Empty)
    (hs : Step τ l h l') : l'.stopped = true → l'.Empty := by
  intro hstop
  cases hs with
  | stop => exact ⟨rfl, rfl, rfl, rfl, rfl, rfl⟩
  | enter | ticket | fail | finish | abandon | «open» | tell | drop | read | close =>
    obtain ⟨h₁, h₂, h₃, h₄, h₅, h₆⟩ := hl hstop
    exact ⟨h₁, h₂, h₃, h₄, h₅, h₆⟩
  | release =>
    have hstop' : l.stopped = true := hstop
    obtain ⟨h₁, h₂, h₃, h₄, h₅, h₆⟩ := hl hstop'
    exact ⟨h₁, (if_pos hstop').trans h₂, h₃, h₄, h₅, h₆⟩
  | queue _ hrun | order hrun | sweep hrun | number hrun | cancel hrun | write hrun | answer hrun
  | late hrun | forgotten hrun | pass hrun | deliver hrun | unroute hrun | miss hrun
  | other hrun => exact absurd (hrun.symm.trans hstop) Bool.false_ne_true

/-- A dispatcher that has stopped is empty, wherever steps lead. -/
theorem empty_of_steps {l : Ledger} {h : List Note} (hs : Ledger.start.Steps τ h l) :
    l.stopped = true → l.Empty :=
  hs.invariant (P := fun _ l => l.stopped = true → l.Empty) (by rintro ⟨⟩)
    fun _ hl hs => hs.empty hl

end Ledger

end GroundLink.Connection
