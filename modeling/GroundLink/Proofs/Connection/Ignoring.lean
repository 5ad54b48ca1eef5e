import GroundLink.Proofs.Connection.Listening
import GroundLink.Proofs.Connection.Overlaying

/-!
# Texts that come to nothing

The dispatcher makes nothing of a frame that it does not know, of a server state, and of a reply to
no request that it keeps in mind. It counts them and sends them to the listeners. Two runs that
differ in such texts only are the same to everybody but the listeners, as long as the connection is
in use in both of them. A listener that waits for a server state is such a user, and a text that
comes to nothing otherwise may be the one that it waits for.
-/

namespace GroundLink.Connection

open Protocol

/-! ### What ignored texts may change -/

/-- The counters that ignored texts leave alone. -/
def countersOf (t : Traffic) : Traffic :=
  { Traffic.none with sent := t.sent, events := t.events, unrouted := t.unrouted }

/-- A phase without the frame that the listeners are still to get. -/
def Phase.core : Phase → Phase
  | .writing r _ => .writing r none
  | phase => phase

/-- Whether a note is about more than a text that the dispatcher may have ignored. -/
def Note.isTold : Note → Bool
  | .handled (.event _) => true
  | .handled _ => false
  | _ => true

/-- The notes but for the texts that the dispatcher may have ignored. -/
def told (h : List Note) : List Note := h.filter (·.isTold)

@[simp] lemma told_append (h h' : List Note) : told (h ++ h') = told h ++ told h' :=
  List.filter_append ..

namespace Channel

/-- A channel without texts, and without what is known of them only to listeners and counters. -/
def core (ch : Channel) : Channel :=
  { ch with
    inbound := []
    phase := ch.phase.core
    traffic := countersOf ch.traffic
    fanout := .start
    held := true }

variable (ch : Channel)

lemma isStopped_core : ch.core.isStopped = ch.isStopped := by
  have hphase : ch.core.phase = ch.phase.core := rfl
  unfold isStopped
  rw [hphase]
  cases ch.phase <;> rfl

lemma unnoticed_core : Unnoticed core where
  isStopped := isStopped_core
  commandRoom _ := rfl
  commands _ := rfl
  line _ := rfl
  cancels _ := rfl
  mailboxes _ := rfl
  nextTicket _ := rfl
  map_commands _ _ := rfl
  map_line _ _ := rfl
  map_cancels _ _ := rfl
  map_mailboxes _ _ := rfl
  map_nextTicket _ _ := rfl

@[simp] lemma core_core : ch.core.core = ch.core := by
  have hphase : ch.phase.core.core = ch.phase.core := by cases ch.phase <;> rfl
  change { ch.core with phase := ch.phase.core.core } = ch.core
  rw [hphase]
  rfl

/-! ### The dispatcher -/

@[simp] lemma core_stop : ch.stop.core = ch.core.stop := rfl

@[simp] lemma core_publish (frame : Option Frame) : (publish frame ch).core = ch.core := by
  cases frame <;> rfl

@[simp] lemma core_write (r : NumberedRequest) (frame : Option Frame) :
    (write r frame ch).core = write r none ch.core := by
  rw [write, apply_ite core, apply_ite core, core_publish]
  rfl

lemma core_cancel (c : CallId) (frame : Option Frame) :
    (cancel c frame ch).core = cancel c none ch.core := core_write ..

lemma core_expect (id : RequestId) (w : Option Waiter) :
    (expect id w ch).core = expect id w ch.core := by
  cases w <;> rfl

lemma core_send (request : Request) (w : Option Waiter) :
    (send request w ch).core = send request w ch.core := by
  rw [send, core_write, core_expect]
  rfl

lemma core_openRoute (c : Option CallId) (t : Ticket) :
    (openRoute c t ch).core = openRoute c t ch.core := by
  cases c <;> rfl

lemma core_resolve (id : RequestId) (w : Waiter) (reply : Reply) (frame : Option Frame) :
    (resolve id w reply frame ch).core = resolve id w reply none ch.core := by
  have hopened :
      (openRoute (opened? w reply) w.ticket { ch with pending := ch.pending.erase id }).core
      = openRoute (opened? w reply) w.ticket { ch.core with pending := ch.core.pending.erase id } :=
    core_openRoute ..
  unfold resolve
  dsimp only
  rw [← hopened, unnoticed_core.mailbox]
  split
  · rw [core_publish]
    rfl
  · cases opened? w reply with
    | none => exact core_publish ..
    | some c => exact core_cancel ..

lemma core_resolveLate (reply : Reply) (frame : Option Frame) :
    (resolveLate reply frame ch).core = resolveLate reply none ch.core := by
  unfold resolveLate
  cases reply.request with
  | none => exact core_publish ..
  | some id =>
    change core (if ch.abandoned.elem id then _ else _) = if ch.abandoned.elem id then _ else _
    split
    · cases reply.rejection with
      | some e => exact core_publish ..
      | none => cases reply.call with
        | none => exact core_publish ..
        | some c => exact core_cancel ..
    · exact core_publish ..

/-- The request that a reply is to, if the reply is still waited for. -/
def matched (reply : Reply) (ch : Channel) : Option (RequestId × Waiter) :=
  reply.request.bind fun id => (ch.pending.find? id).map (id, ·)

/-- What a reply brings about, but for the counters and the listeners. -/
lemma core_handleReply (reply : Reply) (frame : Option Frame) :
    (handleReply reply frame ch).core = match ch.matched reply with
      | some (id, w) => resolve id w reply none ch.core
      | none => resolveLate reply none ch.core := by
  unfold handleReply
  change core (match ch.matched reply with | some (id, w) => _ | none => _) = _
  cases ch.matched reply with
  | none => exact core_resolveLate ..
  | some p => exact core_resolve ..

lemma core_handleEvent (u : Update) : (handleEvent u ch).core = handleEvent u ch.core := by
  cases hfind : ch.routes.find? u.call with
  | none =>
    have hfind' : ch.core.routes.find? u.call = none := hfind
    simp only [handleEvent, hfind, hfind']
    rfl
  | some t =>
    have hfind' : ch.core.routes.find? u.call = some t := hfind
    simp only [handleEvent, hfind, hfind', apply_ite core]
    rfl

/-- The core of a channel tells what a text makes of it. -/
lemma core_receive (text : String) : (receive text ch).core = (receive text ch.core).core := by
  unfold receive
  cases Frame.decode text with
  | reply r =>
    dsimp only
    rw [core_handleReply, core_handleReply]
    change _ = match ch.matched r with
      | some (id, w) => resolve id w r none ch.core.core
      | none => resolveLate r none ch.core.core
    rw [core_core]
    rfl
  | event u =>
    dsimp only
    rw [core_publish, core_handleEvent, core_publish, core_handleEvent]
    exact congrArg (handleEvent u) ch.core_core.symm
  | state s =>
    dsimp only
    rw [core_publish, core_publish]
    exact ch.core_core.symm
  | unknown e =>
    dsimp only
    rw [core_publish, core_publish]
    exact ch.core_core.symm

/-! ### Tasks -/

/-- A task without the frame that the listeners are to get and without later texts. -/
def Task.core : Task → Task
  | .write r _ => .write r none
  | .execute c rest => .execute c rest
  | .cancel c rest => .cancel c rest
  | .receive text _ => .receive text []
  | .stop => .stop

lemma core_execute (c : Command) : (execute c ch).core = execute c ch.core := by
  cases c with
  | send request w => exact core_send ..
  | close => exact core_stop ch

lemma core_perform (task : Task) : (ch.perform task).core = (ch.core.perform task.core).core := by
  cases task with
  | write r frame =>
    rw [perform, Task.core, perform, core_write, core_write, core_core]
  | execute c rest =>
    rw [perform, Task.core, perform, core_execute, core_execute]
    exact congrArg (execute c) (core_core { ch with commands := rest }).symm
  | cancel c rest =>
    rw [perform, Task.core, perform, core_cancel, core_cancel]
    exact congrArg (cancel c none) (core_core { ch with cancels := rest }).symm
  | receive text rest => exact core_receive { ch with inbound := rest } text
  | stop => exact ch.stop.core_core.symm

/-- The text that the dispatcher is to take next, as long as anybody uses the connection. -/
def upcoming? (ch : Channel) : Option String :=
  ({ ch with held := true } : Channel).task?.bind Task.text?

/-- The next task is known from the core, and from whether anybody uses the connection. -/
lemma map_core_task : ch.task?.map Task.core
    = ({ ch.core with held := ch.held, inbound := ch.upcoming?.toList } : Channel).task?.map
      Task.core := by
  -- The texts matter only where the dispatcher is about to take the first one.
  obtain ⟨_, room, commands, _, cancels, inbound, speaks, written, taken, reads, phase, _, _, _, _,
    _, _, _, _, held⟩ := ch
  cases phase with
  | stopped => rfl
  | writing r frame =>
    change Option.map Task.core
        (if reads && room ≤ (written.drop taken).length then none else some (.write r frame))
      = Option.map Task.core
        (if reads && room ≤ (written.drop taken).length then none else some (.write r none))
    split <;> rfl
  | ready =>
    rcases commands with _ | ⟨c, rest⟩
    · cases held
      · rfl
      · rcases cancels with _ | ⟨c, rest⟩
        · rcases inbound with _ | ⟨text, rest⟩
          · cases speaks <;> rfl
          · rfl
        · rfl
    · rfl

/-- What the dispatcher does next. -/
def dispatched (ch : Channel) : Channel := ch.step?.getD ch

lemma told_taskNotes (task : Task) :
    told (ch.taskNotes task) = told (ch.core.taskNotes task.core) := by
  cases task with
  | receive text rest =>
    have hnext : (ch.perform (.receive text rest)).nextId
        = (ch.core.perform (.receive text [])).nextId := by
      have hcore := congrArg nextId (ch.core_perform (.receive text rest))
      exact hcore
    simp only [taskNotes, Task.core]
    cases Frame.decode text with
    | reply r =>
      dsimp only [cancelledBy]
      rw [hnext]
      rfl
    | _ => rfl
  | execute c rest => cases c <;> rfl
  | _ => rfl

variable {ch} {ch' : Channel}

/-- In use alike, and about to take the same text, the dispatchers of two channels with the same
core do the same. -/
lemma core_dispatched (hcore : ch'.core = ch.core) (hheld : ch'.held = ch.held)
    (hcomes : ch'.upcoming? = ch.upcoming?) :
    ch'.dispatched.core = ch.dispatched.core
      ∧ told ((ch'.task?.map ch'.taskNotes).getD [])
        = told ((ch.task?.map ch.taskNotes).getD []) := by
  have htask : ch'.task?.map Task.core = ch.task?.map Task.core := by
    rw [ch'.map_core_task, hcore, hheld, hcomes, ← ch.map_core_task]
  rw [dispatched, dispatched, step?_eq, step?_eq]
  generalize ch.task? = task at htask
  generalize ch'.task? = task' at htask
  cases task with
  | none =>
    obtain rfl := Option.map_eq_none_iff.mp htask
    exact ⟨hcore, rfl⟩
  | some task =>
    obtain ⟨task', rfl, hsame⟩ := Option.map_eq_some_iff.mp htask
    constructor
    · change (ch'.perform task').core = (ch.perform task).core
      rw [core_perform, hsame, hcore, ← core_perform]
    · change told (ch'.taskNotes task') = told (ch.taskNotes task)
      rw [told_taskNotes, hsame, hcore, ← told_taskNotes]

/-- Who takes no notice of ignored texts does the same to channels with the same core. -/
lemma core_congr {α : Type} {f : Channel → α × Channel}
    (hf : ∀ ch, f ch.core = ((f ch).1, (f ch).2.core)) (hcore : ch'.core = ch.core) :
    (f ch').1 = (f ch).1 ∧ (f ch').2.core = (f ch).2.core := by
  have hsame := (hf ch').symm.trans ((congrArg f hcore).trans (hf ch))
  exact Prod.ext_iff.mp hsame

/-! ### Ignored texts -/

/-- Whether the dispatcher ignores a text: a frame that it does not know, a server state, or a reply
to no request that it keeps in mind. -/
def ignores (ch : Channel) (text : String) : Bool :=
  match Frame.decode text with
  | .reply r => match r.request with
    | none => true
    | some id => (ch.pending.find? id).isNone && !ch.abandoned.elem id
  | .event _ => false
  | .state _ | .unknown _ => true

/-- An ignored text changes counters at most, and goes to the listeners. -/
lemma core_receive_of_ignored {text : String} (hignored : ch.ignores text = true) :
    (receive text ch).core = ch.core := by
  unfold ignores at hignored
  unfold receive
  cases hframe : Frame.decode text with
  | event u => simp [hframe] at hignored
  | state s => exact core_publish ..
  | unknown e => exact core_publish ..
  | reply r =>
    rw [hframe] at hignored
    dsimp only at hignored ⊢
    rw [core_handleReply]
    change (match ch.matched r with
      | some (id, w) => resolve id w r none ch.core
      | none => resolveLate r none ch.core) = ch.core
    unfold matched resolveLate
    cases hid : r.request with
    | none => rfl
    | some id =>
      rw [hid] at hignored
      obtain ⟨hpending, hkept⟩ := (Bool.and_eq_true ..).mp hignored
      have habandoned : ch.abandoned.elem id = false := by simpa using hkept
      rw [Option.bind_some, Option.isNone_iff_eq_none.mp hpending]
      change (if ch.abandoned.elem id then _ else _) = ch.core
      rw [habandoned]
      rfl

/-- A text that is ignored leaves the core alone, and nothing is told of it. -/
lemma core_dispatched_of_ignored {text : String} (hheld : ch.held = true)
    (hcomes : ch.upcoming? = some text) (hignored : ch.ignores text = true) :
    ch.dispatched.core = ch.core ∧ told ((ch.task?.map ch.taskNotes).getD []) = [] := by
  obtain ⟨task, htask, htext⟩ := Option.bind_eq_some_iff.mp hcomes
  rw [← hheld] at htask
  change ch.task? = some task at htask
  cases task with
  | receive text' rest =>
    obtain rfl : text' = text := Option.some.inj htext
    have hcore : (receive text' { ch with inbound := rest }).core
        = ({ ch with inbound := rest } : Channel).core := core_receive_of_ignored hignored
    rw [dispatched, step?_eq, htask]
    refine ⟨hcore, ?_⟩
    change told (ch.taskNotes (.receive text' rest)) = []
    have hnext : (ch.perform (.receive text' rest)).nextId = ch.nextId := by
      have hsame := congrArg nextId hcore
      exact hsame
    unfold ignores at hignored
    unfold taskNotes
    cases hframe : Frame.decode text' with
    | event u => simp [hframe] at hignored
    | reply r => simp [hframe, cancelledBy, hnext, told, Note.isTold]
    | state st => simp [hframe, told, Note.isTold]
    | unknown e => simp [hframe, told, Note.isTold]
  | _ => cases htext

end Channel

open Channel

/-! ### Callers and consumers -/

namespace Operation

/-- Whether an operation is to bring the server state. -/
def seeksState : Operation → Bool
  | .askState .. | .awaitState .. => true
  | _ => false

variable (ch : Channel)

lemma pollStop_core (now deadline : Nat) :
    pollStop now deadline ch.core
      = ((pollStop now deadline ch).1, (pollStop now deadline ch).2.core) := by
  unfold pollStop
  rw [isStopped_core]
  split
  · rfl
  · split <;> rfl

/-- Who does not seek the server state takes no notice of ignored texts. -/
lemma poll_core (s : Setting) (now : Nat) {op : Operation} (hop : op.seeksState = false) :
    op.poll s now ch.core = ((op.poll s now ch).1, (op.poll s now ch).2.core) := by
  cases op with
  | close t =>
    simp only [poll]
    rw [unnoticed_core.enqueue]
    obtain ⟨q, ch'⟩ := ch.enqueue t .close
    cases q with
    | full => rfl
    | _ => exact pollStop_core ch' ..
  | awaitStop deadline => exact pollStop_core ch ..
  | refused request => rfl
  | askState | awaitState => cases hop
  | _ => exact poll_unnoticed unnoticed_core ch s now rfl fun _ _ _ _ => rfl

lemma pollNotes_core (t : Ticket) (s : Setting) (now : Nat) {op : Operation}
    (hop : op.seeksState = false) : op.pollNotes t s now ch.core = op.pollNotes t s now ch := by
  simp only [pollNotes, poll_core ch s now hop, Exchange.queueNotes_unnoticed unnoticed_core]

lemma abandon_core {op : Operation} (hop : op.seeksState = false) :
    op.abandon ch.core = (op.abandon ch).core := by
  cases op with
  | askState | awaitState => cases hop
  | refused | awaitStop => rfl
  | close t => rfl
  | _ => exact abandon_unnoticed unnoticed_core ch rfl

end Operation

namespace Channel

lemma core_pollFrame (l : ListenerId) (ch : Channel) : (ch.pollFrame l).2.core = ch.core := by
  obtain ⟨fanout, dropped, hmoves⟩ := ch.pollFrame_moves l
  rw [hmoves]
  rfl

lemma core_seekState (l : ListenerId) (fuel : Nat) (ch : Channel) :
    (ch.seekState l fuel).2.core = ch.core := by
  obtain ⟨fanout, dropped, hmoves⟩ := ch.seekState_moves l fuel
  rw [hmoves]
  rfl

end Channel

namespace Party

/-- What matters of a party to others: whether it waits for a server state does not, and which
listener it reads from does not either. -/
def core : Party → Option Party
  | .calling (.awaitState ..) => none
  | .calling (.askState t _) => some (.calling (.askState t ⟨0⟩))
  | p => some p

def seeksState : Party → Bool
  | .calling op => op.seeksState
  | _ => false

lemma core_cases (p : Party) : p.core = none ∨ (∃ t l, p = .calling (.askState t l))
    ∨ p.core = some p ∧ p.seeksState = false := by
  cases p with
  | calling op => cases op with
    | awaitState l deadline => exact .inl rfl
    | askState t l => exact .inr (.inl ⟨t, l, rfl⟩)
    | _ => exact .inr (.inr ⟨rfl, rfl⟩)
  | _ => exact .inr (.inr ⟨rfl, rfl⟩)

/-- How two parties with the same core may differ. -/
inductive Alike : Option Party → Option Party → Prop
  | same {p : Party} : p.seeksState = false → Alike (some p) (some p)
  | asking (t : Ticket) (l l' : ListenerId) :
    Alike (some (.calling (.askState t l))) (some (.calling (.askState t l')))
  | unseen {p p' : Option Party} : p.bind core = none → p'.bind core = none → Alike p p'

lemma alike_of_core {p p' : Option Party} (h : p'.bind core = p.bind core) : Alike p p' := by
  cases p with
  | none => exact .unseen rfl h
  | some p =>
    cases hcore : p.core with
    | none => exact .unseen hcore (h.trans hcore)
    | some r =>
      obtain ⟨p', rfl, hcore'⟩ := Option.bind_eq_some_iff.mp (h.trans hcore)
      -- Either both of them ask for the server state, or neither seeks it.
      rcases p.core_cases with hp | ⟨t, l, rfl⟩ | ⟨hp, hseeks⟩
      · cases hp.symm.trans hcore
      · cases hcore
        rcases p'.core_cases with hp' | ⟨t', l', rfl⟩ | ⟨hp', hseeks'⟩
        · cases hp'.symm.trans hcore'
        · cases hcore'
          exact .asking ..
        · obtain rfl := Option.some.inj (hp'.symm.trans hcore')
          cases hseeks'
      · obtain rfl := Option.some.inj (hp.symm.trans hcore)
        rcases p'.core_cases with hp' | ⟨t', l', rfl⟩ | ⟨hp', -⟩
        · cases hp'.symm.trans hcore'
        · cases hcore'
          cases hseeks
        · obtain rfl := Option.some.inj (hp'.symm.trans hcore')
          exact .same hseeks

end Party

namespace Operation

variable (ch : Channel) (s : Setting) (now : Nat)

/-- Who waits for a server state changes nothing of the core, however long it waits. -/
lemma core_pollState (l : ListenerId) (deadline : Nat) :
    (Party.after (pollState s now l deadline ch).1).bind Party.core = none
      ∧ (pollState s now l deadline ch).2.core = ch.core := by
  have hcore := ch.core_seekState l (ch.fanout.recent.length + 1)
  unfold pollState
  generalize ch.seekState l (ch.fanout.recent.length + 1) = result at hcore
  obtain ⟨_ | state, ch'⟩ := result
  · dsimp only
    split <;> exact ⟨rfl, hcore⟩
  · exact ⟨rfl, hcore⟩

/-- Who asks for the server state queues its command, or stands in line for it. -/
lemma core_poll_askState (t : Ticket) (l : ListenerId) :
    (Party.after ((askState t l).poll s now ch).1).bind Party.core
        = (if (ch.enqueue t (.send .state none)).1 = .full
          then some (.calling (.askState t ⟨0⟩)) else none)
      ∧ ((askState t l).poll s now ch).2.core = (ch.enqueue t (.send .state none)).2.core := by
  simp only [poll]
  generalize ch.enqueue t (.send .state none) = result
  obtain ⟨q, ch'⟩ := result
  cases q with
  | queued => exact core_pollState ch' ..
  | full => exact ⟨rfl, rfl⟩
  | closed => exact ⟨rfl, rfl⟩

end Operation

namespace Party

/-- A consumer takes no notice of ignored texts. -/
lemma read_core {p : Party} (ch : Channel) :
    p.read ch.core = ((p.read ch).1, (p.read ch).2.core) := by
  cases p with
  | calling op => rfl
  | holding sub =>
    simp only [read]
    rw [sub.poll_unnoticed unnoticed_core rfl]
  | streaming st =>
    simp only [read]
    rw [st.poll_unnoticed unnoticed_core fun _ _ _ _ => rfl]

end Party

namespace System

/-! ### Systems -/

/-- Whether an act is about frames only: the server sends one, a listener does something, or the
dispatcher takes a text that it ignores. -/
def isAside (a : Act) (s : System) : Bool :=
  match a with
  | .push _ | .listen | .hear _ | .leave _ => true
  | .dispatch => s.channel.held && s.channel.upcoming?.any s.channel.ignores
  | _ => false

lemma doings_dispatch (s : System) :
    s.doings .dispatch = (s.channel.task?.map s.channel.taskNotes).getD [] := by
  unfold doings
  cases s.channel.task? <;> rfl

/-- A system that differs from another one in what comes of ignored texts at most. -/
structure Matches (s s' : System) : Prop where
  setting : s'.setting = s.setting
  channel : s'.channel.core = s.channel.core
  now : s'.now = s.now
  connected : s'.connected = s.connected
  parties : ∀ t, (s'.parties.find? t).bind Party.core = (s.parties.find? t).bind Party.core

namespace Matches

variable {s s' s'' : System}

@[refl] lemma refl (s : System) : Matches s s := ⟨rfl, rfl, rfl, rfl, fun _ => rfl⟩

lemma symm (h : Matches s s') : Matches s' s :=
  ⟨h.setting.symm, h.channel.symm, h.now.symm, h.connected.symm, fun t => (h.parties t).symm⟩

lemma trans (h : Matches s s') (h' : Matches s' s'') : Matches s s'' :=
  ⟨h'.setting.trans h.setting, h'.channel.trans h.channel, h'.now.trans h.now,
    h'.connected.trans h.connected, fun t => (h'.parties t).trans (h.parties t)⟩

/-- The same change of the core leads to the same core. -/
lemma set (h : Matches s s') {ch ch' : Channel} (hcore : ch'.core = ch.core) :
    Matches { s with channel := ch } { s' with channel := ch' } :=
  ⟨h.setting, hcore, h.now, h.connected, h.parties⟩

lemma put (h : Matches s s') (t : Ticket) {p p' : Option Party}
    (hp : p'.bind Party.core = p.bind Party.core) : Matches (s.put t p) (s'.put t p') := by
  refine ⟨h.setting, h.channel, h.now, h.connected, fun u => ?_⟩
  rw [find_put, find_put]
  split
  · exact hp
  · exact h.parties u

lemma dropUnused (s : System) : Matches s s.dropUnused := by
  unfold System.dropUnused
  split
  · rfl
  · exact (refl s).set rfl

lemma isStopped (h : Matches s s') : s'.channel.isStopped = s.channel.isStopped := by
  rw [← isStopped_core, h.channel, isStopped_core]

lemma nextTicket (h : Matches s s') : s'.channel.nextTicket = s.channel.nextTicket := by
  have hsame := congrArg Channel.nextTicket h.channel
  exact hsame

/-- A system without anybody to use the connection is the same but for that. -/
lemma drop (h : Matches s s') : Matches s.dropUnused s'.dropUnused :=
  ((dropUnused s).symm.trans h).trans (dropUnused s')

/-! ### Acts of callers -/

lemma launch (h : Matches s s') {start : Channel → Operation × Channel}
    (hstart : ∀ ch, start ch.core = ((start ch).1, (start ch).2.core)) :
    Matches (s.launch start) (s'.launch start) := by
  obtain ⟨hop, hcore⟩ := core_congr hstart h.channel
  unfold System.launch
  by_cases hconnected : s.connected = true
  · rw [if_pos hconnected, if_pos (h.connected.trans hconnected), h.nextTicket]
    generalize start s.channel = result at hop hcore
    generalize start s'.channel = result' at hop hcore
    obtain ⟨op, ch⟩ := result
    obtain ⟨op', ch'⟩ := result'
    obtain rfl : op' = op := hop
    cases op' with
    | refused request => exact h
    | _ => exact (h.set hcore).put _ rfl
  · rw [if_neg hconnected, if_neg (h.connected ▸ hconnected)]
    exact h

lemma askState (h : Matches s s') :
    Matches (s.launch Operation.startState) (s'.launch Operation.startState) := by
  have hcore : (Operation.startState s'.channel).2.core = (Operation.startState s.channel).2.core :=
    congrArg (fun ch : Channel => { ch with nextTicket := ch.nextTicket + 1 }) h.channel
  have hparty : (some (Party.calling (Operation.startState s'.channel).1)).bind Party.core
      = (some (Party.calling (Operation.startState s.channel).1)).bind Party.core :=
    congrArg (fun n => some (Party.calling (.askState ⟨n⟩ ⟨0⟩))) h.nextTicket
  unfold System.launch
  by_cases hconnected : s.connected = true
  · rw [if_pos hconnected, if_pos (h.connected.trans hconnected), h.nextTicket]
    exact (h.set hcore).put _ hparty
  · rw [if_neg hconnected, if_neg (h.connected ▸ hconnected)]
    exact h

/-- A party is looked after as its operation is. -/
lemma of_look {t : Ticket} {op : Operation} {σ : Setting} {n : Nat} (hσ : s.setting = σ)
    (hn : s.now = n) (hparty : s.parties.find? t = some (.calling op)) :
    Matches (({ s with channel := (op.poll σ n s.channel).2 } : System).put t
      (Party.after (op.poll σ n s.channel).1)) (s.look t) := by
  subst hσ hn
  unfold System.look
  rw [hparty]
  dsimp only
  generalize op.poll s.setting s.now s.channel = result
  obtain ⟨_ | result, ch⟩ := result
  · rfl
  · exact dropUnused _

/-- Whether somebody waits for a server state makes no difference. -/
lemma put_unseen {t : Ticket} {p : Option Party} {ch : Channel}
    (hunseen : (s.parties.find? t).bind Party.core = none) (hp : p.bind Party.core = none)
    (hcore : ch.core = s.channel.core) :
    Matches s (({ s with channel := ch } : System).put t p) := by
  refine ⟨rfl, hcore, rfl, rfl, fun u => ?_⟩
  rw [find_put]
  split
  case isTrue hu => rw [hu, hunseen, hp]
  case isFalse => rfl

/-- To look after somebody who waits for a server state makes no difference. -/
lemma look_unseen {t : Ticket} (hunseen : (s.parties.find? t).bind Party.core = none) :
    s.doings (.look t) = [] ∧ Matches s (s.look t) := by
  cases hparty : s.parties.find? t with
  | none => exact ⟨by simp [doings, hparty], by simp [System.look, hparty, refl]⟩
  | some p =>
    rw [hparty] at hunseen
    cases p with
    | holding | streaming => cases hunseen
    | calling op => cases op with
      | awaitState l deadline =>
        obtain ⟨hafter, hcore⟩ := Operation.core_pollState s.channel s.setting s.now l deadline
        constructor
        · simp only [doings, hparty]
          exact Operation.pollNotes_of_idle _ _ _ _ rfl
        · refine (put_unseen ?_ hafter hcore).trans (of_look rfl rfl hparty)
          rw [hparty, hunseen]
      | _ => cases hunseen

lemma look (h : Matches s s') (t : Ticket) :
    s'.doings (.look t) = s.doings (.look t) ∧ Matches (s.look t) (s'.look t) := by
  have halike := Party.alike_of_core (h.parties t)
  generalize hp : s.parties.find? t = p at halike
  generalize hp' : s'.parties.find? t = p' at halike
  cases halike with
  | unseen hunseen hunseen' =>
    obtain ⟨hdoings, hlook⟩ := look_unseen (hp ▸ hunseen)
    obtain ⟨hdoings', hlook'⟩ := look_unseen (hp' ▸ hunseen')
    exact ⟨hdoings'.trans hdoings.symm, (hlook.symm.trans h).trans hlook'⟩
  | asking u l l' =>
    obtain ⟨hafter, hcore⟩ := Operation.core_poll_askState s.channel s.setting s.now u l
    obtain ⟨hafter', hcore'⟩ := Operation.core_poll_askState s'.channel s.setting s.now u l'
    obtain ⟨hqueued, hchannel⟩ := core_congr
      (unnoticed_core.enqueue · u (.send .state none)) h.channel
    constructor
    · simp only [doings, hp, hp']
      rw [Operation.pollNotes_of_idle _ _ _ _ rfl, Operation.pollNotes_of_idle _ _ _ _ rfl]
    · refine ((of_look rfl rfl hp).symm.trans ?_).trans (of_look h.setting h.now hp')
      refine (h.set ?_).put t ?_
      · rw [hcore', hchannel, hcore]
      · rw [hafter', hqueued, hafter]
  | @same p hseeks => cases p with
    | calling op =>
      obtain ⟨hresult, hcore⟩ := core_congr
        (fun ch => Operation.poll_core ch s.setting s.now hseeks) h.channel
      constructor
      · simp only [doings, hp, hp']
        rw [h.setting, h.now, ← op.pollNotes_core s'.channel t s.setting s.now hseeks, h.channel,
          op.pollNotes_core s.channel t s.setting s.now hseeks]
      · refine ((of_look rfl rfl hp).symm.trans ?_).trans (of_look h.setting h.now hp')
        exact (h.set hcore).put t (congrArg (fun r => (Party.after r).bind Party.core) hresult)
    | holding | streaming =>
      refine ⟨by simp [doings, hp, hp'], ?_⟩
      simpa [System.look, hp, hp'] using h

lemma of_abandon {t : Ticket} {op : Operation} (hparty : s.parties.find? t = some (.calling op)) :
    Matches (({ s with channel := op.abandon s.channel } : System).put t none) (s.abandon t) := by
  unfold System.abandon
  rw [hparty]
  exact dropUnused _

lemma abandon_unseen {t : Ticket} (hunseen : (s.parties.find? t).bind Party.core = none) :
    s.doings (.abandon t) = [] ∧ Matches s (s.abandon t) := by
  cases hparty : s.parties.find? t with
  | none => exact ⟨by simp [doings, hparty], by simp [System.abandon, hparty, refl]⟩
  | some p =>
    rw [hparty] at hunseen
    cases p with
    | holding | streaming => cases hunseen
    | calling op => cases op with
      | awaitState l deadline =>
        refine ⟨by simp [doings, hparty, Operation.abandonNotes], ?_⟩
        refine trans ?_ (of_abandon hparty)
        exact put_unseen (by rw [hparty, hunseen]) rfl rfl
      | _ => cases hunseen

lemma abandon (h : Matches s s') (t : Ticket) :
    s'.doings (.abandon t) = s.doings (.abandon t) ∧ Matches (s.abandon t) (s'.abandon t) := by
  have halike := Party.alike_of_core (h.parties t)
  generalize hp : s.parties.find? t = p at halike
  generalize hp' : s'.parties.find? t = p' at halike
  cases halike with
  | unseen hunseen hunseen' =>
    obtain ⟨hdoings, hleft⟩ := abandon_unseen (hp ▸ hunseen)
    obtain ⟨hdoings', hleft'⟩ := abandon_unseen (hp' ▸ hunseen')
    exact ⟨hdoings'.trans hdoings.symm, (hleft.symm.trans h).trans hleft'⟩
  | asking u l l' =>
    refine ⟨by simp [doings, hp, hp', Operation.abandonNotes], ?_⟩
    refine ((of_abandon hp).symm.trans ((h.set ?_).put t rfl)).trans (of_abandon hp')
    exact congrArg (Channel.leaveLine u) h.channel
  | @same p hseeks => cases p with
    | calling op =>
      refine ⟨by simp [doings, hp, hp'], ?_⟩
      refine ((of_abandon hp).symm.trans ((h.set ?_).put t rfl)).trans (of_abandon hp')
      rw [← op.abandon_core _ hseeks, h.channel, op.abandon_core _ hseeks]
    | holding | streaming =>
      refine ⟨by simp [doings, hp, hp'], ?_⟩
      simpa [System.abandon, hp, hp'] using h

/-- The connection is closed, unless operations use it. -/
lemma close (h : Matches s s') (hbusy : s'.isBusy = s.isBusy) : Matches s.close s'.close := by
  unfold System.close
  rw [hbusy]
  split
  · exact ⟨h.setting, h.channel, h.now, rfl, h.parties⟩
  · have hlaunch := h.launch (Operation.startClose_unnoticed unnoticed_core)
    exact ⟨hlaunch.setting, hlaunch.channel, hlaunch.now, rfl, hlaunch.parties⟩

/-! ### Acts of consumers -/

/-- Consumers are the same on both sides. -/
lemma consumer (h : Matches s s') (t : Ticket) :
    (∃ p, p.isCalling = false ∧ s.parties.find? t = some p ∧ s'.parties.find? t = some p)
      ∨ (∀ p, s.parties.find? t = some p → p.isCalling = true)
        ∧ ∀ p, s'.parties.find? t = some p → p.isCalling = true := by
  have hunseen : ∀ {q : Option Party}, q.bind Party.core = none →
      ∀ p, q = some p → p.isCalling = true := by
    rintro _ hnone p rfl
    cases p with
    | calling op => rfl
    | holding | streaming => cases hnone
  have halike := Party.alike_of_core (h.parties t)
  generalize s.parties.find? t = p at halike
  generalize s'.parties.find? t = p' at halike
  cases halike with
  | unseen hnone hnone' => exact .inr ⟨hunseen hnone, hunseen hnone'⟩
  | asking u l l' => exact .inr ⟨by rintro _ ⟨⟩; rfl, by rintro _ ⟨⟩; rfl⟩
  | @same p hseeks => cases hcalling : p.isCalling with
    | false => exact .inl ⟨p, hcalling, rfl, rfl⟩
    | true => exact .inr ⟨by rintro _ ⟨⟩; exact hcalling, by rintro _ ⟨⟩; exact hcalling⟩

/-- Whoever calls neither reads nor lets anything go. -/
lemma act_of_calling {t : Ticket} (hidle : ∀ p, s.parties.find? t = some p → p.isCalling = true) :
    (s.doings (.read t) = [] ∧ s.read t = s) ∧ s.doings (.release t) = [] ∧ s.release t = s := by
  cases hparty : s.parties.find? t with
  | none => simp [doings, System.read, System.release, hparty]
  | some p => cases p with
    | calling op => simp [doings, System.read, System.release, hparty]
    | holding | streaming => cases hidle _ hparty

lemma read (h : Matches s s') (t : Ticket) :
    s'.doings (.read t) = s.doings (.read t) ∧ Matches (s.read t) (s'.read t) := by
  rcases h.consumer t with ⟨p, hcalling, hp, hp'⟩ | ⟨hidle, hidle'⟩
  · obtain ⟨hparty, hcore⟩ := core_congr (f := p.read) p.read_core h.channel
    have htaken : takenEvents t s'.channel (p.read s'.channel).2
        = takenEvents t s.channel (p.read s.channel).2 := by
      change takenEvents t s'.channel.core (p.read s'.channel).2.core
        = takenEvents t s.channel.core (p.read s.channel).2.core
      rw [h.channel, hcore]
    cases p with
    | calling op => cases hcalling
    | holding | streaming =>
      simp only [doings, System.read, hp, hp']
      exact ⟨congrArg (·.map (Note.yielded t)) htaken,
        (h.set hcore).put t (congrArg (fun p => (some p).bind Party.core) hparty)⟩
  · obtain ⟨⟨hdoings, hread⟩, -⟩ := act_of_calling hidle
    obtain ⟨⟨hdoings', hread'⟩, -⟩ := act_of_calling hidle'
    rw [hread, hread']
    exact ⟨hdoings'.trans hdoings.symm, h⟩

lemma release (h : Matches s s') (t : Ticket) :
    s'.doings (.release t) = s.doings (.release t) ∧ Matches (s.release t) (s'.release t) := by
  rcases h.consumer t with ⟨p, hcalling, hp, hp'⟩ | ⟨hidle, hidle'⟩
  · have hcore : (p.release s'.channel).core = (p.release s.channel).core := by
      rw [← p.release_unnoticed unnoticed_core, h.channel, p.release_unnoticed unnoticed_core]
    cases p with
    | calling op => cases hcalling
    | holding | streaming =>
      simp only [doings, System.release, hp, hp', true_and]
      exact (h.set hcore).put t rfl
  · obtain ⟨-, hdoings, hrelease⟩ := act_of_calling hidle
    obtain ⟨-, hdoings', hrelease'⟩ := act_of_calling hidle'
    rw [hrelease, hrelease']
    exact ⟨hdoings'.trans hdoings.symm, h⟩

/-! ### Acts of listeners and of the server -/

lemma core_push (text : String) (ch : Channel) : (ch.push text).2.core = ch.core := by
  unfold push
  split
  · rfl
  · split
    · rfl
    · split <;> rfl

/-- What the server sends, and what listeners do, makes no difference so far. -/
lemma aside {a : Act} (haside : s.isAside a = true) :
    told (s.doings a) = [] ∧ Matches s (s.act a) := by
  cases a with
  | push text => exact ⟨rfl, (refl s).set (core_push ..)⟩
  | listen =>
    refine ⟨rfl, ?_⟩
    simp only [act, System.listen]
    split
    · exact ⟨rfl, rfl, rfl, rfl, fun _ => rfl⟩
    · rfl
  | hear l =>
    refine ⟨rfl, ?_⟩
    simp only [act]
    split
    · exact (refl s).set (core_pollFrame ..)
    · rfl
  | leave l =>
    refine ⟨rfl, ?_⟩
    simp only [act]
    split
    · exact ⟨rfl, rfl, rfl, rfl, fun _ => rfl⟩
    · rfl
  | dispatch =>
    cases hcomes : s.channel.upcoming? with
    | none => simp [isAside, hcomes] at haside
    | some text =>
      obtain ⟨hheld, hignored⟩ : s.channel.held = true ∧ s.channel.ignores text = true := by
        simpa [isAside, hcomes] using haside
      obtain ⟨hcore, htold⟩ := core_dispatched_of_ignored hheld hcomes hignored
      exact ⟨by rw [doings_dispatch, htold], (refl s).set hcore⟩
  | _ => cases haside

/-- The dispatchers of two systems that take the same text, if any, do the same. -/
lemma dispatch (h : Matches s s') (hheld : s'.channel.held = s.channel.held)
    (hcomes : s'.channel.upcoming? = s.channel.upcoming?) :
    told (s'.doings .dispatch) = told (s.doings .dispatch)
      ∧ Matches (s.act .dispatch) (s'.act .dispatch) := by
  obtain ⟨hcore, htold⟩ := core_dispatched h.channel hheld hcomes
  rw [doings_dispatch, doings_dispatch]
  exact ⟨htold, h.set hcore⟩

/-- Whoever does the same to two systems finds the same. -/
lemma act (h : Matches s s') {a : Act} (hdispatch : a = .dispatch →
      s'.channel.held = s.channel.held ∧ s'.channel.upcoming? = s.channel.upcoming?)
    (hclose : a = .close → s'.isBusy = s.isBusy) :
    told (s'.notes a) = told (s.notes a) ∧ Matches (s.act a) (s'.act a) := by
  have hall : told (s'.doings a) = told (s.doings a) ∧ Matches (s.act a) (s'.act a) := by
    cases a with
    | send request => exact ⟨rfl, h.launch (Operation.startSend_unnoticed unnoticed_core · request)⟩
    | subscribe request =>
      exact ⟨rfl, h.launch (Operation.startSubscribe_unnoticed unnoticed_core · request)⟩
    | stream plan =>
      refine ⟨rfl, ?_⟩
      simp only [System.act, h.setting]
      exact h.launch (Operation.startStream_unnoticed unnoticed_core · _ plan)
    | askState => exact ⟨rfl, h.askState⟩
    | close => exact ⟨rfl, h.close (hclose rfl)⟩
    | look t => exact (h.look t).imp_left (congrArg told)
    | abandon t => exact (h.abandon t).imp_left (congrArg told)
    | read t => exact (h.read t).imp_left (congrArg told)
    | release t => exact (h.release t).imp_left (congrArg told)
    | disconnect =>
      exact ⟨rfl, drop ⟨h.setting, h.channel, h.now, rfl, h.parties⟩⟩
    | dispatch => exact h.dispatch (hdispatch rfl).1 (hdispatch rfl).2
    | hangUp =>
      exact ⟨rfl,
        h.set (congrArg (fun ch : Channel => { ch with serverSpeaks := false }) h.channel)⟩
    | cutWriter =>
      exact ⟨rfl, h.set (congrArg (fun ch : Channel => { ch with serverReads := false }) h.channel)⟩
    | take max =>
      exact ⟨rfl, h.set (congrArg (fun ch : Channel => (ch.take max).2) h.channel)⟩
    | advance span =>
      exact ⟨rfl, h.setting, h.channel, congrArg (· + span.nanos) h.now, h.connected, h.parties⟩
    | archive history =>
      exact ⟨rfl, congrArg (fun s : Setting => { s with history }) h.setting, h.channel, h.now,
        h.connected, h.parties⟩
    | push text | listen | hear l | leave l =>
      exact ⟨rfl, ((aside rfl).2.symm.trans h).trans (aside rfl).2⟩
  refine ⟨?_, hall.2⟩
  rw [notes, notes, told_append, told_append, hall.1, Channel.stopNotes, Channel.stopNotes,
    hall.2.isStopped, h.isStopped]

/-- An act about frames only is not noticed. -/
lemma notes_aside {a : Act} (haside : s.isAside a = true) : told (s.notes a) = [] := by
  obtain ⟨hdoings, hafter⟩ := aside haside
  rw [notes, told_append, hdoings, Channel.stopNotes_of_eq hafter.isStopped]
  rfl

end Matches

/-! ### Two runs -/

/-- What is done to one or both of two systems. -/
inductive Joint where
  | both (a : Act)
  | first (a : Act)
  | second (a : Act)

namespace Joint

def first? : Joint → Option Act
  | .both a | .first a => some a
  | .second _ => none

def second? : Joint → Option Act
  | .both a | .second a => some a
  | .first _ => none

end Joint

/-- What the first system does. -/
def firsts (js : List Joint) : List Act := js.filterMap Joint.first?

/-- What the second system does. -/
def seconds (js : List Joint) : List Act := js.filterMap Joint.second?

/-- Whether the dispatchers of two systems have come to the same text, where they take a step. -/
def isAlong (a : Act) (s s' : System) : Bool :=
  match a with
  | .dispatch => s'.channel.upcoming? = s.channel.upcoming?
  | _ => true

/-- Whether two systems do the same but for ignored texts, which may come in at any point of one of
them, and be taken. -/
def strewn : List Joint → System → System → Bool
  | [], _, _ => true
  | .both a :: js, s, s' => isAlong a s s' && strewn js (s.act a) (s'.act a)
  | .first a :: js, s, s' => s.isAside a && strewn js (s.act a) s'
  | .second a :: js, s, s' => s'.isAside a && strewn js s (s'.act a)

/-- Whether two connections are in use alike, where that matters: to the dispatcher once the
connection itself has been let go, and to whoever closes it. -/
def isUsedAlike (a : Act) (s s' : System) : Bool :=
  match a with
  | .dispatch => s.connected || s'.channel.held = s.channel.held
  | .close => s'.isBusy = s.isBusy
  | _ => true

/-- Whether two connections are in use alike all the time. -/
def usedAlike : List Joint → System → System → Bool
  | [], _, _ => true
  | .both a :: js, s, s' => isUsedAlike a s s' && usedAlike js (s.act a) (s'.act a)
  | .first a :: js, s, s' => usedAlike js (s.act a) s'
  | .second a :: js, s, s' => usedAlike js s (s'.act a)

variable {setting : Setting} {textRoom : Nat} {h h' : List Note} {s s' : System}

/-- The connection itself is held until it is let go or closed. -/
lemma connected_act {a : Act} (hkeeping : a.isKeeping = true) (s : System) :
    (s.act a).connected = s.connected := by
  have hholders := holders_act a s
  generalize (s.act a).listeners = ls, (s.act a).connected = connected at hholders ⊢
  cases hholders with
  | same | listened | left => rfl
  | closed | disconnected => cases hkeeping

/-- Connections are in use alike as long as the first one is neither let go nor closed. -/
lemma usedAlike_of_kept {js : List Joint} (hkept : (firsts js).all Act.isKeeping = true)
    (hconnected : s.connected = true) : usedAlike js s s' = true := by
  induction js generalizing s s' with
  | nil => rfl
  | cons j js ih => cases j with
    | both a =>
      obtain ⟨hkeeping, hkept⟩ := (Bool.and_eq_true ..).mp hkept
      have hnow : isUsedAlike a s s' = true := by
        cases a with
        | dispatch => exact (Bool.or_eq_true ..).mpr (.inl hconnected)
        | close => cases hkeeping
        | _ => rfl
      exact (Bool.and_eq_true ..).mpr
        ⟨hnow, ih hkept ((connected_act hkeeping s).trans hconnected)⟩
    | first a =>
      obtain ⟨hkeeping, hkept⟩ := (Bool.and_eq_true ..).mp hkept
      exact ih hkept ((connected_act hkeeping s).trans hconnected)
    | second a => exact ih hkept hconnected

/-- A step of two runs that differ in ignored texts at most. -/
lemma Matches.both (hm : Matches s s') (hrun : Run setting textRoom h s)
    (hrun' : Run setting textRoom h' s') {a : Act} (halong : isAlong a s s' = true)
    (hused : isUsedAlike a s s' = true) :
    told (s'.notes a) = told (s.notes a) ∧ Matches (s.act a) (s'.act a) := by
  refine hm.act ?_ ?_
  · rintro rfl
    refine ⟨?_, of_decide_eq_true halong⟩
    -- As long as the connection itself is held, it is in use in both systems.
    rcases (Bool.or_eq_true ..).mp hused with hconnected | hheld
    · rw [hrun.tuned.held hconnected, hrun'.tuned.held (hm.connected.trans hconnected)]
    · exact of_decide_eq_true hheld
  · rintro rfl
    exact of_decide_eq_true hused

lemma Matches.play (hm : Matches s s') (hrun : Run setting textRoom h s)
    (hrun' : Run setting textRoom h' s') (js : List Joint) (hstrewn : strewn js s s' = true)
    (hused : usedAlike js s s' = true) :
    told (s'.log (seconds js)) = told (s.log (firsts js))
      ∧ Matches (s.play (firsts js)) (s'.play (seconds js)) := by
  induction js generalizing h h' s s' with
  | nil => exact ⟨rfl, hm⟩
  | cons j js ih => cases j with
    | both a =>
      obtain ⟨halong, hstrewn⟩ := (Bool.and_eq_true ..).mp hstrewn
      obtain ⟨hnow, hused⟩ := (Bool.and_eq_true ..).mp hused
      obtain ⟨hnotes, hnext⟩ := hm.both hrun hrun' halong hnow
      obtain ⟨hlog, hlast⟩ := ih hnext (hrun.act a) (hrun'.act a) hstrewn hused
      refine ⟨?_, hlast⟩
      change told (s'.notes a ++ (s'.act a).log (seconds js))
        = told (s.notes a ++ (s.act a).log (firsts js))
      rw [told_append, told_append, hnotes, hlog]
    | first a =>
      obtain ⟨haside, hstrewn⟩ := (Bool.and_eq_true ..).mp hstrewn
      obtain ⟨hlog, hlast⟩ :=
        ih ((Matches.aside haside).2.symm.trans hm) (hrun.act a) hrun' hstrewn hused
      refine ⟨?_, hlast⟩
      change told (s'.log (seconds js)) = told (s.notes a ++ (s.act a).log (firsts js))
      rw [told_append, Matches.notes_aside haside, hlog]
      rfl
    | second a =>
      obtain ⟨haside, hstrewn⟩ := (Bool.and_eq_true ..).mp hstrewn
      obtain ⟨hlog, hlast⟩ :=
        ih (hm.trans (Matches.aside haside).2) hrun (hrun'.act a) hstrewn hused
      refine ⟨?_, hlast⟩
      change told (s'.notes a ++ (s'.act a).log (seconds js)) = told (s.log (firsts js))
      rw [told_append, Matches.notes_aside haside, hlog]
      rfl

end System

/-- Texts that the dispatcher ignores come to nothing, however many there are and wherever they come
in: all else that is noted is the same, and so is all else that there is. That is so as long as the
connection itself is held, and beyond that as long as the connection is in use alike. -/
theorem Run.ignored_unnoticed {setting : Setting} {textRoom : Nat} {h : List Note} {s : System}
    (hrun : Run setting textRoom h s) (js : List System.Joint)
    (hstrewn : System.strewn js s s = true) (hused : System.usedAlike js s s = true) :
    told (s.log (System.seconds js)) = told (s.log (System.firsts js))
      ∧ (s.play (System.firsts js)).Matches (s.play (System.seconds js)) :=
  (System.Matches.refl s).play hrun hrun js hstrewn hused

namespace System

/-- A subscription that gets an event. In the second run there are a text that is no frame, a server
state, and a reply to nobody between the others. -/
def interspersed : List Joint :=
  [.both (.subscribe (.time "simulator" "realtime")), .second (.push stateText), .both (.look ⟨0⟩),
    .both .dispatch, .second .dispatch, .second (.push "?"), .both (.push (openingText 1 5)),
    .second .dispatch, .both .dispatch, .both (.look ⟨0⟩), .second (.push (openingText 9 7)),
    .both (.push (eventText 5 0)), .second .dispatch, .both .dispatch, .both (.read ⟨0⟩)]

/-- A subscription, and a call for the server state that outlives the connection's owner. In the
second run the state comes, and the call is over. -/
def answeredEarly : List Joint :=
  [.both (.subscribe (.time "simulator" "realtime")), .both (.look ⟨0⟩), .both .dispatch,
    .both (.push (openingText 1 5)), .both .dispatch, .both (.look ⟨0⟩), .both .askState,
    .both (.look ⟨1⟩), .both .dispatch, .both .disconnect, .second (.push stateText),
    .second .dispatch, .both (.look ⟨1⟩), .both (.push (eventText 5 0)), .both .dispatch,
    .both (.read ⟨0⟩)]

end System

/-- The event is read in the second run as well. -/
theorem Run.ignored_unnoticed_interspersed :
    System.strewn System.interspersed System.plain System.plain = true
      ∧ System.usedAlike System.interspersed System.plain System.plain = true
      ∧ (System.seconds System.interspersed).length = (System.firsts System.interspersed).length + 6
      ∧ (story ⟨0⟩ (System.plain.log (System.seconds System.interspersed))).read.length = 1
      ∧ told (System.plain.log (System.seconds System.interspersed))
        = told (System.plain.log (System.firsts System.interspersed))
      ∧ (System.plain.play (System.firsts System.interspersed)).Matches
        (System.plain.play (System.seconds System.interspersed)) := by
  have hstrewn : System.strewn System.interspersed System.plain System.plain = true := by
    decide +kernel
  have hused : System.usedAlike System.interspersed System.plain System.plain = true :=
    System.usedAlike_of_kept rfl rfl
  refine ⟨hstrewn, hused, by decide +kernel, by decide +kernel, ?_⟩
  exact (Run.plain []).ignored_unnoticed System.interspersed hstrewn hused

/-- A server state comes to something where a call for it is all that uses the connection: the call
is over, the dispatcher stops, and an event of a subscription is lost. -/
theorem Run.ignored_noticed_answeredEarly :
    System.strewn System.answeredEarly System.plain System.plain = true
      ∧ (System.plain.play (System.firsts System.answeredEarly)).channel.isStopped = false
      ∧ (System.plain.play (System.seconds System.answeredEarly)).channel.isStopped = true
      ∧ (story ⟨0⟩ (System.plain.log (System.firsts System.answeredEarly))).read.length = 1
      ∧ (story ⟨0⟩ (System.plain.log (System.seconds System.answeredEarly))).read.length = 0 := by
  decide +kernel

end GroundLink.Connection
