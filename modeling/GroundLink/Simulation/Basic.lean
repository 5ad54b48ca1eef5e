import GroundLink.Connection.System

/-!
# Simulations

A system whose server and consumers follow a script, under a clock that moves only where the
script says so. The script names the operations that it starts, and the subscriptions, streams and
listeners that come of them. Whatever it does to the system is an act of somebody there.
-/

namespace GroundLink

open Connection Protocol

/-- What the script holds under a name. -/
inductive Simulation.Handle where
  /-- A subscription or a stream. -/
  | consumer (t : Ticket)
  | frames (listener : ListenerId)

/-- A system, and what the script has started and holds. -/
structure Simulation where
  system : System
  /-- Whether the server takes requests only where the script says so. -/
  manualDrain : Bool
  /-- The operations that are not through, in the order of their beginnings. -/
  operations : List (String × Ticket)
  handles : Table String Simulation.Handle
  /-- What the server has taken since the last report. -/
  taken : List NumberedRequest
  /-- What has become of operations since the last report. -/
  results : List (String × Except Client.Error Outcome)
  /-- Whether the server has found the end of the requests since the last report. -/
  endFound : Bool
  /-- Whether it has found the end at all. -/
  endSeen : Bool

namespace Simulation

/-- A simulation before the first step. -/
def start (setting : Setting) (textRoom : Nat) (manualDrain : Bool) : Simulation where
  system := .start setting textRoom
  manualDrain := manualDrain
  operations := []
  handles := []
  taken := []
  results := []
  endFound := false
  endSeen := false

/-- Somebody acts on the system. -/
def act (a : System.Act) (s : Simulation) : Simulation := { s with system := s.system.act a }

/-! ### Handles -/

/-- Lets a handle go. -/
def Handle.release : Handle → System.Act
  | .consumer t => .release t
  | .frames listener => .leave listener

/-- Lets go what is held under a name. -/
def release (name : String) (s : Simulation) : Simulation :=
  match s.handles.find? name with
  | some h => { s.act h.release with handles := s.handles.erase name }
  | none => s

/-- Holds a handle under a name, in place of what was held under it. -/
def hold (name : String) (h : Handle) (s : Simulation) : Simulation :=
  let s := s.release name
  { s with handles := s.handles.insert name h }

/-! ### Operations -/

/-- Reports what has become of an operation, and holds what came of it. -/
def finish (name : String) (t : Ticket) (result : Except Client.Error Outcome) (s : Simulation) :
    Simulation :=
  let s := { s with results := s.results ++ [(name, result)] }
  match Party.keeping result with
  | some _ => s.hold name (.consumer t)
  | none => s

/-- Looks after an operation, and puts it behind the others where it goes on. -/
def look (name : String) (t : Ticket) (s : Simulation) : Simulation :=
  match s.system.parties.find? t with
  | some (.calling op) => match (op.poll s.system.setting s.system.now s.system.channel).1 with
    | .pending _ => { s.act (.look t) with operations := s.operations ++ [(name, t)] }
    | .ready result => finish name t result (s.act (.look t))
  | _ => s

/-- Why an act starts no operation: its request opens no subscription. -/
def refusal? (a : System.Act) (s : Simulation) : Option Client.Error :=
  let check (request : Request) : Option Client.Error :=
    if request.topic?.isNone then some (.notASubscription request.typeName) else none
  match a with
  | .subscribe request => check request
  | .stream plan => check (plan.request s.system.setting.config)
  | _ => none

/-- Starts an operation and looks after it at once. -/
def launch (name : String) (a : System.Act) (s : Simulation) : Simulation :=
  let t : Ticket := ⟨s.system.channel.nextTicket⟩
  match s.refusal? a with
  | some e => finish name t (.error e) s
  | none => look name t (s.act a)

/-- Looks after all operations in their order. -/
def lookAfterAll (s : Simulation) : Simulation :=
  s.operations.foldl (fun s (name, t) => look name t s) { s with operations := [] }

/-- Gives up the operations of a name; their number. -/
def abandon (name : String) (s : Simulation) : Nat × Simulation :=
  let (gone, left) := s.operations.partition (·.1 = name)
  (gone.length, gone.foldl (fun s (_, t) => s.act (.abandon t)) { s with operations := left })

/-! ### The server -/

/-- The server takes requests, up to a number of them if one is given. It finds the end where there
is nothing more to take and the dispatcher has stopped. -/
def drain (max : Option Nat) (s : Simulation) : Simulation :=
  let ch := s.system.channel
  if !ch.serverReads then s
  else
    let n := max.getD ch.backlog.length
    let requests := (ch.take n).1
    let s := s.act (.take n)
    let stoppedShort := match max with
      | some n => requests.length < n
      | none => true
    let ends := stoppedShort && ch.isStopped && s.system.channel.backlog.isEmpty && !s.endSeen
    { s with
      taken := s.taken ++ requests
      endFound := s.endFound || ends
      endSeen := s.endSeen || ends }

/-! ### Settling -/

/-- The dispatcher runs until it has to wait. -/
def dispatch (s : Simulation) : Simulation :=
  { s with system := { s.system with channel := s.system.channel.run } }

/-- The dispatcher runs until it has to wait, the server takes what is written, and all operations
are looked after. -/
def round (s : Simulation) : Simulation :=
  let s := s.dispatch
  let s := if s.manualDrain then s else s.drain none
  s.lookAfterAll

/-- Whether nothing can move. -/
def isQuiet (s : Simulation) : Bool :=
  let ch := s.system.channel
  ch.step?.isNone
    && (s.manualDrain || !ch.serverReads
      || (ch.backlog.isEmpty && (s.endSeen || !ch.isStopped)))

/-- Goes up to `fuel` rounds, until nothing can move. -/
def settleFor : Nat → Simulation → Simulation
  | 0, s => s
  | fuel + 1, s =>
    let s := s.round
    if s.isQuiet then s else settleFor fuel s

/-- A bound on the rounds until nothing can move. -/
def effort (s : Simulation) : Nat := s.system.channel.work + 4 * s.system.parties.length + 2

/-- Lets everything go on until nothing can move. -/
def settle (s : Simulation) : Simulation := settleFor s.effort s

end Simulation

end GroundLink
