import GroundLink.Connection.System
import GroundLink.Proofs.Connection.Note

/-!
# Runs of systems

A run is any sequence of acts on a connection, together with what is noted of them.
-/

namespace GroundLink.Connection

open Protocol

/-! ### Tasks of the dispatcher -/

namespace Channel

inductive Task where
  | write (r : NumberedRequest) (frame : Option Frame)
  | execute (command : Command) (rest : List Command)
  | cancel (call : CallId) (rest : List CallId)
  | receive (text : String) (rest : List String)
  | stop

namespace Task

/-- The command that is taken with a task. -/
def command? : Task → Option Command
  | .execute c _ => some c
  | _ => none

/-- The call whose cancel is taken from its queue with a task. -/
def call? : Task → Option CallId
  | .cancel c _ => some c
  | _ => none

/-- The text that is taken with a task. -/
def text? : Task → Option String
  | .receive text _ => some text
  | _ => none

end Task

/-- The next task, if the dispatcher need not wait. -/
def task? (ch : Channel) : Option Task :=
  match ch.phase with
  | .stopped => none
  | .writing r frame =>
    if ch.serverReads && ch.textRoom ≤ ch.backlog.length then none else some (.write r frame)
  | .ready => match ch.commands, ch.cancels, ch.inbound with
    | c :: rest, _, _ => some (.execute c rest)
    | [], cancels, inbound =>
      if !ch.held then some .stop
      else match cancels, inbound with
        | c :: rest, _ => some (.cancel c rest)
        | [], text :: rest => some (.receive text rest)
        | [], [] => if ch.serverSpeaks then none else some .stop

def perform (task : Task) (ch : Channel) : Channel :=
  match task with
  | .write r frame => ch.write r frame
  | .execute c rest => execute c { ch with commands := rest }
  | .cancel c rest => cancel c none { ch with cancels := rest }
  | .receive text rest => receive text { ch with inbound := rest }
  | .stop => ch.stop

/-- A step of the dispatcher does its next task. -/
lemma step?_eq (ch : Channel) : ch.step? = ch.task?.map fun task => ch.perform task := by
  -- The two functions differ in the order of their cases only.
  obtain ⟨_, _, commands, _, cancels, inbound, speaks, _, _, _, phase, _, _, _, _, _, _, _, _,
    held⟩ := ch
  cases phase with
  | stopped => rfl
  | writing r frame =>
    simp only [step?, task?]
    split <;> rfl
  | ready =>
    rcases commands with _ | ⟨c, rest⟩
    · cases held
      · rfl
      · rcases cancels with _ | ⟨c, rest⟩
        · rcases inbound with _ | ⟨text, rest⟩
          · cases speaks <;> rfl
          · rfl
        · rfl
    · rfl

/-- The call that is cancelled when a reply is handled. -/
def cancelledBy (reply : Reply) (before after : Channel) : Option CallId :=
  if after.nextId = before.nextId then none else reply.call

def taskNotes (ch : Channel) (task : Task) : List Note :=
  match task with
  | .execute (.send r w) _ => [.sent ⟨ch.nextId, r⟩ w]
  | .cancel c _ => [.cancelled ch.nextId c]
  | .receive text _ => match Frame.decode text with
    | .reply r => .handled (.reply r)
        :: ((cancelledBy r ch (ch.perform task)).map (.cancelled ch.nextId ·)).toList
    | frame => [.handled frame]
  | .write .. | .execute .close _ | .stop => []

/-- Notes that the dispatcher has stopped, if it has. -/
def stopNotes (before after : Channel) : List Note :=
  if after.isStopped && !before.isStopped then [.stopped] else []

end Channel

/-! ### What is noted of those who act -/

/-- The exchange that an operation waits for. -/
def Operation.exchange? : Operation → Option Exchange
  | .send x | .subscribe _ x | .stream _ _ x => some x
  | _ => none

/-- Whether an operation is about a request with a reply. -/
def Operation.isRequest : Operation → Bool
  | .send _ | .subscribe .. | .stream .. | .fetch .. => true
  | _ => false

/-- What is noted where a request is queued. -/
def Exchange.queueNotes (now : Nat) (x : Exchange) (ch : Channel) : List Note :=
  if x.stage = .queueing ∧ (ch.enqueue x.ticket x.command).1 = .queued then [.queued x.ticket now]
  else []

/-- What is noted where an operation is looked after. -/
def Operation.pollNotes (t : Ticket) (s : Setting) (now : Nat) (op : Operation) (ch : Channel) :
    List Note :=
  (op.exchange?.map (·.queueNotes now ch)).getD [] ++ match (op.poll s now ch).1 with
    | .ready result => if op.isRequest then [.returned t result] else []
    | .pending _ => []

def Operation.abandonNotes (t : Ticket) : Operation → List Note
  | .fetch .. => [.released t]
  | .send _ | .subscribe .. | .stream .. => [.abandoned t]
  | _ => []

namespace Party

/-- The subscription that a party holds, if it does nothing else. -/
def held? : Party → Option Subscription
  | .holding s => some s
  | _ => none

lemma eq_of_held {p : Option Party} {sub : Subscription} (hp : p.bind held? = some sub) :
    p = some (.holding sub) := by
  cases p with
  | none => cases hp
  | some p => cases p with
    | holding s =>
      obtain rfl := Option.some.inj hp
      rfl
    | _ => cases hp

end Party

/-- What a consumer has taken out of its queue. -/
def takenEvents (t : Ticket) (before after : Channel) : List Update :=
  let events := (before.mailbox t).events
  events.take (events.length - (after.mailbox t).events.length)

namespace System

/-! ### Runs -/

/-- What is noted of an act, but for a stop of the dispatcher. -/
def doings (a : Act) (s : System) : List Note :=
  match a with
  | .look t => match s.parties.find? t with
    | some (.calling op) => op.pollNotes t s.setting s.now s.channel
    | _ => []
  | .abandon t => match s.parties.find? t with
    | some (.calling op) => op.abandonNotes t
    | _ => []
  | .read t => match s.parties.find? t with
    | some (.calling _) | none => []
    | some p => (takenEvents t s.channel (p.read s.channel).2).map (.yielded t)
  | .release t => match s.parties.find? t with
    | some (.calling _) | none => []
    | some _ => [.released t]
  | .dispatch => match s.channel.task? with
    | some task => s.channel.taskNotes task
    | none => []
  | _ => []

/-- What is noted of an act. -/
def notes (a : Act) (s : System) : List Note :=
  s.doings a ++ Channel.stopNotes s.channel (s.act a).channel

end System

/-- The runs of a system: the notes so far, and where they have led. -/
inductive Run (setting : Setting) (textRoom : Nat) : List Note → System → Prop
  | start : Run setting textRoom [] (.start setting textRoom)
  | act {h : List Note} {s : System} (a : System.Act) :
      Run setting textRoom h s → Run setting textRoom (h ++ s.notes a) (s.act a)

namespace System

/-- Does some acts one after another. -/
def play : List Act → System → System
  | [], s => s
  | a :: as, s => play as (s.act a)

def log : List Act → System → List Note
  | [], _ => []
  | a :: as, s => s.notes a ++ log as (s.act a)

/-- A text of the server: a reply that opens a call. -/
def openingText (request call : Nat) : String :=
  "\x7b\"type\":\"reply\",\"call\":" ++ toString call ++ ",\"data\":\x7b\"replyTo\":"
    ++ toString request ++ "\x7d\x7d"

/-- A text of the server: a reply that rejects a request. -/
def rejectingText (request : Nat) : String :=
  "\x7b\"type\":\"reply\",\"data\":\x7b\"replyTo\":" ++ toString request
    ++ ",\"exception\":\x7b\"code\":404,\"type\":\"NotFound\",\"msg\":\"none\"\x7d\x7d\x7d"

def eventText (call seq : Nat) : String :=
  "\x7b\"type\":\"links\",\"call\":" ++ toString call ++ ",\"seq\":" ++ toString seq
    ++ ",\"data\":\x7b\"links\":[]\x7d\x7d"

/-- A text of the server: its state, without any calls. -/
def stateText : String := "\x7b\"type\":\"state\",\"data\":\x7b\x7d\x7d"

/-- A system with the default settings and no earlier history. -/
def plain : System := start ⟨.default, .none⟩ 64

end System

lemma Run.play {setting : Setting} {textRoom : Nat} {h : List Note} {s : System}
    (hrun : Run setting textRoom h s) (as : List System.Act) :
    Run setting textRoom (h ++ s.log as) (s.play as) := by
  induction as generalizing h s with
  | nil => simpa [System.log, System.play] using hrun
  | cons a as ih =>
    rw [System.log, System.play, ← List.append_assoc]
    exact ih (hrun.act a)

lemma Run.plain (as : List System.Act) :
    Run ⟨.default, .none⟩ 64 (System.plain.log as) (System.plain.play as) :=
  Run.start.play as

end GroundLink.Connection
