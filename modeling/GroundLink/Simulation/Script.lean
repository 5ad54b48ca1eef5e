import GroundLink.Simulation.Basic

/-!
# Scripts

A script is a list of steps. A step is one move, after which everything goes on until nothing can
move; or several moves, which nothing comes between; or several moves, each of which everything
settles after.
-/

namespace GroundLink.Simulation

open Connection Protocol

/-- One thing that a script does. -/
inductive Move where
  | send (name : String) (request : Request)
  | subscribe (name : String) (request : Request)
  | stream (name : String) (plan : Plan)
  | askState (name : String)
  | listen (name : String)
  | abandon (name : String)
  | push (text : String)
  /-- Reads up to a number of items. -/
  | next (name : String) (max : Nat)
  | info (name : String)
  | release (name : String)
  | advance (span : Time.Span)
  | hangUp
  | cutWriter
  | drain (max : Option Nat)
  | traffic
  | isOpen
  | close
  | dropConnection

/-- What a consumer has read. -/
inductive Seen where
  | item (item : Item)
  | frame (frame : Frame)

/-- Why a consumer reads no further. -/
inductive Rest where
  /-- It has read as much as it was to read. -/
  | more
  | pending
  | over
deriving DecidableEq, Repr

/-- What a move answers. -/
inductive Answer where
  | nothing
  | noSuchName (name : String)
  | noConnection
  | sending (s : Channel.Sending)
  | count (n : Nat)
  | seen (items : List Seen) (rest : Rest)
  | subscription (call : CallId) (topic : Topic) (state : SubscriptionState)
  | stream
  | traffic (t : Traffic)
  | flag (b : Bool)
  /-- Operations still use the connection. -/
  | shared

/-- A step of a script. -/
inductive Step where
  | one (move : Move)
  | together (moves : List Move)
  | inTurn (moves : List Move)

/-- What comes of a step. -/
structure Report where
  answers : List Answer
  taken : List NumberedRequest
  results : List (String × Except Client.Error Outcome)
  endFound : Bool

/-! ### Reading -/

/-- What the consumer of a handle finds. -/
def Handle.find (h : Handle) (s : System) : Found Seen :=
  let seen {α : Type} (f : α → Seen) : Found α → Found Seen
    | .item a => .item (f a)
    | .pending => .pending
    | .over => .over
  match h with
  | .consumer t => match s.parties.find? t with
    | some (.holding sub) => seen (fun u => .item (.update u)) (sub.poll s.channel).1
    | some (.streaming st) => seen .item (st.poll s.channel).1
    | _ => .over
  | .frames listener => seen .frame (s.channel.pollFrame listener).1

/-- Takes what the consumer of a handle finds. -/
def Handle.read : Handle → System.Act
  | .consumer t => .read t
  | .frames listener => .hear listener

/-- Reads up to a number of items. -/
def readUpTo (h : Handle) : Nat → Simulation → List Seen × Rest × Simulation
  | 0, s => ([], .more, s)
  | max + 1, s => match h.find s.system with
    | .item a =>
      let (items, rest, s) := readUpTo h max (s.act h.read)
      (a :: items, rest, s)
    | .pending => ([], .pending, s.act h.read)
    | .over => ([], .over, s.act h.read)

/-- Does something with what is held under a name. -/
def withHandle (name : String) (s : Simulation) (f : Handle → Answer × Simulation) :
    Answer × Simulation :=
  match s.handles.find? name with
  | some h => f h
  | none => (.noSuchName name, s)

/-- Does something with the connection, if the script still holds it. -/
def withConnection (s : Simulation) (f : Answer × Simulation) : Answer × Simulation :=
  if s.system.connected then f else (.noConnection, s)

/-- What is known of a handle. -/
def Handle.info (h : Handle) (s : System) : Answer :=
  match h with
  | .consumer t => match s.parties.find? t with
    | some (.holding sub) => .subscription sub.call sub.topic sub.state
    | _ => .stream
  | .frames _ => .stream

/-! ### Moves -/

/-- Lets go of the connection; operations may still use it. -/
def disconnect (s : Simulation) : Answer × Simulation :=
  (if s.system.isBusy then .shared else .nothing, s.act .disconnect)

/-- Closes the connection, unless operations still use it. -/
def close (s : Simulation) : Answer × Simulation :=
  if s.system.isBusy then (.shared, s.act .close) else (.nothing, s.launch "close" .close)

/-- Does one thing. -/
def perform (move : Move) (s : Simulation) : Answer × Simulation :=
  match move with
  | .send name request => s.withConnection (.nothing, s.launch name (.send request))
  | .subscribe name request => s.withConnection (.nothing, s.launch name (.subscribe request))
  | .stream name plan => s.withConnection (.nothing, s.launch name (.stream plan))
  | .askState name => s.withConnection (.nothing, s.launch name .askState)
  | .listen name =>
    s.withConnection (.nothing, hold name (.frames s.system.channel.listen.1) (s.act .listen))
  | .abandon name =>
    let (n, s) := s.abandon name
    (.count n, s)
  | .push text => (.sending (s.system.channel.push text).1, s.act (.push text))
  | .next name max => s.withHandle name fun h =>
    let (items, rest, s) := s.readUpTo h max
    (.seen items rest, s)
  | .info name => s.withHandle name fun h => (h.info s.system, s)
  | .release name => s.withHandle name fun _ => (.nothing, s.release name)
  | .advance span => (.nothing, s.act (.advance span))
  | .hangUp => (.nothing, s.act .hangUp)
  | .cutWriter => (.nothing, s.act .cutWriter)
  | .drain max => (.nothing, s.drain max)
  | .traffic => s.withConnection (.traffic s.system.channel.traffic, s)
  | .isOpen => s.withConnection (.flag (!s.system.channel.isStopped), s)
  | .close => s.withConnection s.close
  | .dropConnection => s.withConnection s.disconnect

/-! ### Steps -/

/-- Does several things, one after the other. -/
def performAll (after : Simulation → Simulation) : List Move → Simulation →
    List Answer × Simulation
  | [], s => ([], s)
  | move :: moves, s =>
    let (answer, s) := s.perform move
    let (answers, s) := performAll after moves (after s)
    (answer :: answers, s)

/-- What has come of a step. -/
def report (answers : List Answer) (s : Simulation) : Report × Simulation :=
  (⟨answers, s.taken, s.results, s.endFound⟩,
    { s with taken := [], results := [], endFound := false })

/-- Does a step. -/
def step (step : Step) (s : Simulation) : Report × Simulation :=
  match step with
  | .one move =>
    let (answer, s) := s.perform move
    report [answer] s.settle
  | .together moves =>
    let (answers, s) := s.performAll id moves
    report answers s.settle
  | .inTurn moves =>
    let (answers, s) := s.performAll settle moves
    report answers s.settle

/-- Does the steps of a script in their order. -/
def run : List Step → Simulation → List Report × Simulation
  | [], s => ([], s)
  | next :: steps, s =>
    let (report, s) := s.step next
    let (reports, s) := run steps s
    (report :: reports, s)

/-- The counters at the end, and whether the dispatcher runs, if the script still holds the
connection. -/
def final? (s : Simulation) : Option (Traffic × Bool) :=
  let ch := s.system.channel
  if s.system.connected then some (ch.traffic, !ch.isStopped) else none

end GroundLink.Simulation
