import GroundLink.Connection.Operation

/-!
# Systems

A connection with all who act on it: callers, consumers, the dispatcher and the server. Each of them
may act at any moment. A caller may leave a request unfinished, also when the reply is there but not
taken.
-/

namespace GroundLink.Connection

open Protocol

/-! ### Parties -/

/-- Who acts on a ticket. -/
inductive Party where
  | calling (op : Operation)
  | holding (s : Subscription)
  | streaming (s : Stream)

namespace Party

/-- Who holds what comes of an operation. -/
def keeping : Except Client.Error Outcome → Option Party
  | .ok (.subscribed s) => some (.holding s)
  | .ok (.streaming s) => some (.streaming s)
  | _ => none

/-- Whether a caller waits for something. -/
def isCalling : Party → Bool
  | .calling _ => true
  | _ => false

/-- A consumer takes the next item. -/
def read (p : Party) (ch : Channel) : Party × Channel :=
  match p with
  | .calling op => (.calling op, ch)
  | .holding s =>
    let (_, s, ch) := s.poll ch
    (.holding s, ch)
  | .streaming s =>
    let (_, s, ch) := s.poll ch
    (.streaming s, ch)

/-- A consumer lets go what it holds. -/
def release (p : Party) (ch : Channel) : Channel :=
  match p with
  | .calling _ => ch
  | .holding s => (s.release ch).2
  | .streaming s => (s.subscription.release ch).2

end Party

/-- A connection with all who act on it. -/
structure System where
  setting : Setting
  channel : Channel
  now : Nat
  /-- Whether anybody holds the connection itself. -/
  connected : Bool
  parties : Table Ticket Party
  listeners : List ListenerId

namespace System

/-- A system whose connection has just been opened. -/
def start (setting : Setting) (textRoom : Nat) : System where
  setting := setting
  channel := .start setting.config.capacity textRoom
  now := 0
  connected := true
  parties := []
  listeners := []

/-! ### Acts -/

/-- One thing that somebody does. -/
inductive Act where
  | send (request : Request)
  | subscribe (request : Request)
  | stream (plan : Plan)
  | askState
  | close
  | look (t : Ticket)
  | abandon (t : Ticket)
  | read (t : Ticket)
  | release (t : Ticket)
  | listen
  | hear (listener : ListenerId)
  | leave (listener : ListenerId)
  | disconnect
  | dispatch
  | push (text : String)
  | hangUp
  | cutWriter
  | take (max : Nat)
  | advance (span : Time.Span)
  /-- The archive comes to answer otherwise. -/
  | archive (history : History)

/-- Changes who acts on a ticket. -/
def put (t : Ticket) (p : Option Party) (s : System) : System :=
  { s with parties := match p with
    | some p => s.parties.insert t p
    | none => s.parties.erase t }

/-- Whether an operation uses the connection. -/
def isBusy (s : System) : Bool := s.parties.any (·.2.isCalling)

/-- The connection is gone once nobody uses it any more. -/
def dropUnused (s : System) : System :=
  if s.connected || s.isBusy then s else { s with channel := { s.channel with held := false } }

/-- Starts an operation. One that needs no connection is over at once. -/
def launch (start : Channel → Operation × Channel) (s : System) : System :=
  if s.connected then
    match start s.channel with
    | (.refused _, _) => s
    | (op, channel) => put ⟨s.channel.nextTicket⟩ (some (.calling op)) { s with channel }
  else s

def look (t : Ticket) (s : System) : System :=
  match s.parties.find? t with
  | some (.calling op) => match op.poll s.setting s.now s.channel with
    | (.pending op, channel) => put t (some (.calling op)) { s with channel }
    | (.ready result, channel) => (put t (Party.keeping result) { s with channel }).dropUnused
  | _ => s

def abandon (t : Ticket) (s : System) : System :=
  match s.parties.find? t with
  | some (.calling op) => (put t none { s with channel := op.abandon s.channel }).dropUnused
  | _ => s

def read (t : Ticket) (s : System) : System :=
  match s.parties.find? t with
  | some (.calling _) | none => s
  | some p => put t (some (p.read s.channel).1) { s with channel := (p.read s.channel).2 }

def release (t : Ticket) (s : System) : System :=
  match s.parties.find? t with
  | some (.calling _) | none => s
  | some p => put t none { s with channel := p.release s.channel }

/-- Closes the connection, unless operations still use it. -/
def close (s : System) : System :=
  if s.isBusy then { s with connected := false }
  else { s.launch Operation.startClose with connected := false }

def listen (s : System) : System :=
  if s.connected then
    { s with channel := s.channel.listen.2, listeners := s.channel.listen.1 :: s.listeners }
  else s

/-- What an act does. Acts of those who are not there do nothing. -/
def act (a : Act) (s : System) : System :=
  match a with
  | .send request => s.launch (Operation.startSend request)
  | .subscribe request => s.launch (Operation.startSubscribe request)
  | .stream plan => s.launch (Operation.startStream s.setting.config plan)
  | .askState => s.launch Operation.startState
  | .close => s.close
  | .look t => s.look t
  | .abandon t => s.abandon t
  | .read t => s.read t
  | .release t => s.release t
  | .listen => s.listen
  | .hear l => if l ∈ s.listeners then { s with channel := (s.channel.pollFrame l).2 } else s
  | .leave l =>
    if l ∈ s.listeners then
      { s with channel := s.channel.leave l, listeners := s.listeners.filter (· ≠ l) }
    else s
  | .disconnect => { s with connected := false }.dropUnused
  | .dispatch => { s with channel := s.channel.step?.getD s.channel }
  | .push text => { s with channel := (s.channel.push text).2 }
  | .hangUp => { s with channel := s.channel.hangUp }
  | .cutWriter => { s with channel := s.channel.cutWriter }
  | .take max => { s with channel := (s.channel.take max).2 }
  | .advance span => { s with now := s.now + span.nanos }
  | .archive history => { s with setting := { s.setting with history } }

end System

end GroundLink.Connection
