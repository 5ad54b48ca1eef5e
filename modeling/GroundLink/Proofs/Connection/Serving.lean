import GroundLink.Proofs.Connection.Relaying
import GroundLink.Proofs.Connection.Tracking
import GroundLink.Proofs.Traffic

/-!
# What the dispatcher does with its tasks

With each task the dispatcher takes a command, a cancel or a text from its queue. A text is counted
by what it says. Whatever is written with a task is counted as sent, and the queues are left alone.
So the dispatcher takes commands and cancels in the order in which they have been queued, each of
them once.
-/

namespace GroundLink.Connection

open Protocol

variable {ch : Channel} {frame : Option Frame} {sent : Nat} {traffic : Traffic}
  {commands : List Command} {cancels : List CallId} {inbound : List String}

namespace Channel

/-! ### Serving -/

/-- Where the dispatcher leads from a number of written requests, counters and queues: it counts
what it writes, and leaves the queues alone unless it stops. -/
structure Serves (sent : Nat) (traffic : Traffic) (commands : List Command) (cancels : List CallId)
    (inbound : List String) (ch : Channel) : Prop where
  counted : ∃ n, ch.written.length = sent + n
    ∧ ch.traffic = { traffic with sent := traffic.sent + .ofNat n }
  queues : ch.isStopped = true
    ∨ ch.commands = commands ∧ ch.cancels = cancels ∧ ch.inbound = inbound

lemma serves_self (ch : Channel) :
    Serves ch.written.length ch.traffic ch.commands ch.cancels ch.inbound ch where
  counted := ⟨0, rfl, by simp⟩
  queues := .inr ⟨rfl, rfl, rfl⟩

lemma serves_stop (ch : Channel) :
    Serves ch.written.length ch.traffic commands cancels inbound ch.stop where
  counted := ⟨0, rfl, by simp [stop]⟩
  queues := .inl rfl

lemma Serves.publish (h : Serves sent traffic commands cancels inbound ch) (frame : Option Frame) :
    Serves sent traffic commands cancels inbound (publish frame ch) := by
  cases frame <;> exact ⟨h.counted, h.queues⟩

lemma serves_publish (frame : Option Frame) (ch : Channel) :
    Serves ch.written.length ch.traffic ch.commands ch.cancels ch.inbound (publish frame ch) :=
  (serves_self ch).publish frame

lemma serves_write (r : NumberedRequest) (frame : Option Frame) (ch : Channel) :
    Serves ch.written.length ch.traffic ch.commands ch.cancels ch.inbound (write r frame ch) := by
  rw [write]
  split
  · exact serves_stop ch
  · split
    · have hwritten : (ch.written ++ [r]).length = ch.written.length + 1 := by simp
      have hserves : Serves ch.written.length ch.traffic ch.commands ch.cancels ch.inbound
          { ch with
            phase := .ready
            written := ch.written ++ [r]
            traffic := ch.traffic.countSent } :=
        ⟨⟨1, hwritten, rfl⟩, .inr ⟨rfl, rfl, rfl⟩⟩
      exact hserves.publish frame
    · exact serves_self { ch with phase := .writing r frame }

lemma serves_cancel (c : CallId) (frame : Option Frame) (ch : Channel) :
    Serves ch.written.length ch.traffic ch.commands ch.cancels ch.inbound (cancel c frame ch) :=
  serves_write ⟨ch.nextId, .cancel c⟩ frame
    { ch with nextId := ch.nextId.next, routes := ch.routes.erase c }

lemma serves_send (r : Request) (w : Option Waiter) (ch : Channel) :
    Serves ch.written.length ch.traffic ch.commands ch.cancels ch.inbound (send r w ch) := by
  cases w with
  | none => exact serves_write ⟨ch.nextId, r⟩ none { ch.sweep with nextId := ch.nextId.next }
  | some w =>
    exact serves_write ⟨ch.nextId, r⟩ none
      (expect ch.nextId (some w) { ch.sweep with nextId := ch.nextId.next })

lemma serves_handleReply (reply : Reply) (frame : Option Frame) (ch : Channel) :
    Serves ch.written.length (ch.traffic.countReply reply.rejection.isSome) ch.commands ch.cancels
      ch.inbound (handleReply reply frame ch) := by
  obtain ⟨pending, abandoned, routes, mailboxes, hsend | ⟨c, -, hcancel⟩⟩ :=
    reacts_handleReply reply ch
  · simp only [hsend]
    exact serves_publish frame { ch with
      traffic := ch.traffic.countReply reply.rejection.isSome
      pending, abandoned, routes, mailboxes }
  · simp only [hcancel]
    exact serves_cancel c frame { ch with
      traffic := ch.traffic.countReply reply.rejection.isSome
      pending, abandoned, routes, mailboxes }

/-- An event that has no place to go is counted, and nothing is written. -/
lemma serves_handleEvent (u : Update) (ch : Channel) :
    ∃ lost : Bool, Serves ch.written.length
      (if lost then ch.traffic.countEvent.countUnrouted else ch.traffic.countEvent)
      ch.commands ch.cancels ch.inbound (handleEvent u ch) := by
  rw [handleEvent]
  dsimp only
  split
  · exact ⟨true, serves_self { ch with traffic := ch.traffic.countEvent.countUnrouted }⟩
  case h_2 t _ =>
    split
    · exact ⟨false, serves_self (deliver t u { ch with traffic := ch.traffic.countEvent })⟩
    · exact ⟨true, serves_self { ch with
        routes := ch.routes.erase u.call
        traffic := ch.traffic.countEvent.countUnrouted }⟩

/-- A text is counted by what it says. -/
lemma serves_receive (text : String) (ch : Channel) :
    ∃ lost : Bool, Serves ch.written.length (ch.traffic.taking lost (Frame.decode text)) ch.commands
      ch.cancels ch.inbound (receive text ch) := by
  rw [receive]
  cases Frame.decode text with
  | reply r => exact ⟨false, serves_handleReply r _ { ch with traffic := ch.traffic.countReceived }⟩
  | state s =>
    exact ⟨false, serves_publish _ { ch with traffic := ch.traffic.countReceived.countState }⟩
  | unknown e =>
    exact ⟨false,
      serves_publish _ { ch with traffic := ch.traffic.countReceived.countUnknown e.kind }⟩
  | event u =>
    obtain ⟨lost, h⟩ := serves_handleEvent u { ch with traffic := ch.traffic.countReceived }
    exact ⟨lost, h.publish _⟩

/-! ### Tasks -/

/-- What the dispatcher takes with a task is the first of its queue. A text is counted by what it
says, and whatever is written with the task is counted as well. -/
theorem serves_perform {task : Task} (htask : ch.task? = some task) :
    ∃ (lost : Bool) (commands : List Command) (cancels : List CallId) (inbound : List String),
      ch.commands = task.command?.toList ++ commands
      ∧ ch.cancels = task.call?.toList ++ cancels
      ∧ ch.inbound = task.text?.toList ++ inbound
      ∧ Serves ch.written.length
        ((task.text?.map Frame.decode).elim ch.traffic (ch.traffic.taking lost)) commands cancels
        inbound (ch.perform task) := by
  cases due_of_task htask with
  | @write r frame => exact ⟨false, _, _, _, rfl, rfl, rfl, serves_write r frame ch⟩
  | @execute c rest _ hcommands =>
    refine ⟨false, rest, ch.cancels, ch.inbound, hcommands, rfl, rfl, ?_⟩
    cases c with
    | send r w => exact serves_send r w { ch with commands := rest }
    | close => exact serves_stop { ch with commands := rest }
  | @cancel c rest _ _ _ hcancels =>
    exact ⟨false, _, rest, _, rfl, hcancels, rfl, serves_cancel c none { ch with cancels := rest }⟩
  | @receive text rest hhears =>
    obtain ⟨lost, h⟩ := serves_receive text { ch with inbound := rest }
    exact ⟨lost, _, _, rest, rfl, rfl, hhears.inbound, h⟩
  | unused | drained => exact ⟨false, _, _, _, rfl, rfl, rfl, serves_stop ch⟩

end Channel

namespace System

variable {α : Type} {s : System}

/-! ### Traces -/

/-- What acts bring one after another. -/
def trace (f : Act → System → List α) : List Act → System → List α
  | [], _ => []
  | a :: as, s => f a s ++ trace f as (s.act a)

lemma trace_append_singleton (f : Act → System → List α) (as : List Act) (a : Act) (s : System) :
    trace f (as ++ [a]) s = trace f as s ++ f a (s.play as) := by
  induction as generalizing s with
  | nil => exact List.append_nil _
  | cons b as ih => rw [List.cons_append, trace, ih, trace, play, List.append_assoc]

lemma play_append_singleton (as : List Act) (a : Act) (s : System) :
    s.play (as ++ [a]) = (s.play as).act a :=
  play_append as [a] s

lemma log_append_singleton (as : List Act) (a : Act) (s : System) :
    s.log (as ++ [a]) = s.log as ++ (s.play as).notes a := by
  have htrace : ∀ (as : List Act) (s : System), s.log as = trace notes as s := by
    intro as
    induction as with
    | nil => exact fun _ => rfl
    | cons b as ih => exact fun s => congrArg (s.notes b ++ ·) (ih (s.act b))
  rw [htrace, htrace, trace_append_singleton]

/-- The task that the dispatcher does with an act. -/
def task? (a : Act) (s : System) : Option Channel.Task :=
  match a with
  | .dispatch => s.channel.task?
  | _ => none

/-- The command that the dispatcher takes with an act. -/
def executed (a : Act) (s : System) : List Command :=
  ((s.task? a).bind Channel.Task.command?).toList

/-- The call whose cancel the dispatcher takes from its queue with an act. -/
def withdrawn (a : Act) (s : System) : List CallId :=
  ((s.task? a).bind Channel.Task.call?).toList

/-- The text that the dispatcher takes with an act. -/
def received (a : Act) (s : System) : List String :=
  ((s.task? a).bind Channel.Task.text?).toList

lemma task?_of_ne {a : Act} (ha : a ≠ .dispatch) (s : System) : s.task? a = none := by
  cases a <;> first | rfl | exact absurd rfl ha

lemma task?_of_stopped (hstop : s.channel.isStopped = true) (a : Act) : s.task? a = none := by
  by_cases ha : a = .dispatch
  · subst ha
    cases htask : s.channel.task? with
    | none => exact htask
    | some task => cases hstop.symm.trans (Channel.isStopped_of_task htask)
  · exact task?_of_ne ha s

/-- What an act does to counters and queues: texts that are received and requests that are written
are counted, what is taken from a queue is at its front, and what is queued goes to its end. -/
structure Moves (a : Act) (s : System) : Prop where
  counted : ∃ (lost : Bool) (n : Nat) (dropped : UInt64),
    (s.act a).channel.written.length = s.channel.written.length + n
      ∧ (s.act a).channel.traffic
        = { ((s.received a).map Frame.decode).foldl (Traffic.taking lost) s.channel.traffic with
            sent := s.channel.traffic.sent + .ofNat n
            dropped }
  queues : ∃ (commands : List Command) (cancels : List CallId),
    s.channel.commands = s.executed a ++ commands ∧ s.channel.cancels = s.withdrawn a ++ cancels
      ∧ ((s.act a).channel.isStopped = true
        ∨ (s.act a).channel.commands = commands ++ s.orders a
          ∧ (s.act a).channel.cancels = cancels ++ s.loses a)

theorem moves_act (a : Act) (s : System) : s.Moves a := by
  by_cases ha : a = .dispatch
  · subst ha
    have hchannel := act_dispatch_channel s
    cases htask : s.channel.task? with
    | none =>
      have hnone : s.task? .dispatch = none := htask
      rw [htask] at hchannel
      exact {
        counted := by
          refine ⟨false, 0, s.channel.traffic.dropped, by rw [hchannel]; rfl, ?_⟩
          rw [hchannel, received, hnone]
          simp
        queues := by
          refine ⟨s.channel.commands, s.channel.cancels, ?_, ?_, .inr ?_⟩
          · rw [executed, hnone]
            rfl
          · rw [withdrawn, hnone]
            rfl
          · rw [hchannel]
            exact ⟨(List.append_nil _).symm, (List.append_nil _).symm⟩ }
    | some task =>
      have hsome : s.task? .dispatch = some task := htask
      rw [htask] at hchannel
      change _ = s.channel.perform task at hchannel
      obtain ⟨lost, commands, cancels, inbound, hcommands, hcancels, -, ⟨n, hwritten, htraffic⟩,
        hqueues⟩ := Channel.serves_perform htask
      exact {
        counted := by
          refine ⟨lost, n, (s.channel.perform task).traffic.dropped, by rw [hchannel, hwritten], ?_⟩
          rw [hchannel, htraffic, received, hsome, Option.bind_some]
          cases task.text? with
          | none => rfl
          | some text =>
            have hsent := s.channel.traffic.sent_taking lost (Frame.decode text)
            simp [hsent]
        queues := by
          refine ⟨commands, cancels, ?_, ?_, ?_⟩
          · rw [executed, hsome, Option.bind_some, hcommands]
          · rw [withdrawn, hsome, Option.bind_some, hcancels]
          · have horders : s.orders .dispatch = [] := rfl
            have hloses : s.loses .dispatch = [] := rfl
            rw [hchannel, horders, hloses, List.append_nil, List.append_nil]
            exact hqueues.imp_right fun ⟨hcommands, hcancels, _⟩ => ⟨hcommands, hcancels⟩ }
  · obtain ⟨hwritten, ⟨dropped, htraffic⟩, hqueues⟩ := asks_act ha s
    have hnone := task?_of_ne ha s
    exact {
      counted := by
        refine ⟨false, 0, dropped, by rw [hwritten, Nat.add_zero], ?_⟩
        rw [htraffic, received, hnone]
        simp
      queues := by
        refine ⟨s.channel.commands, s.channel.cancels, ?_, ?_, hqueues.imp_right (·.2)⟩
        · rw [executed, hnone]
          rfl
        · rw [withdrawn, hnone]
          rfl }

/-! ### Queues -/

/-- What is taken from a queue comes in the order in which it has been queued, and as long as the
dispatcher runs the rest still waits. -/
structure InOrder (taken all waiting : List α) (running : Prop) : Prop where
  taken_initial : taken <+: all
  waiting : running → taken ++ waiting = all

lemma inOrder_play (queue : Channel → List α) (taken queued : Act → System → List α)
    (hstep : ∀ a s, ∃ rest, queue s.channel = taken a s ++ rest
      ∧ ((s.act a).channel.isStopped = true ∨ queue (s.act a).channel = rest ++ queued a s))
    (hstop : ∀ a s, s.channel.isStopped = true → taken a s = []) (as : List Act) (s : System) :
    InOrder (trace taken as s) (queue s.channel ++ trace queued as s)
      (queue (s.play as).channel) ((s.play as).channel.isStopped = false) := by
  induction as using List.reverseRecOn with
  | nil => exact ⟨List.nil_prefix, fun _ => (List.append_nil _).symm⟩
  | append_singleton as a ih =>
    obtain ⟨rest, hqueue, hrest⟩ := hstep a (s.play as)
    rw [trace_append_singleton, trace_append_singleton, play_append_singleton,
      ← List.append_assoc]
    cases hrun : (s.play as).channel.isStopped with
    | true =>
      rw [hstop a _ hrun, List.append_nil]
      refine ⟨ih.taken_initial.trans (List.prefix_append ..), fun hrun' => ?_⟩
      cases (isStopped_act hrun a).symm.trans hrun'
    | false =>
      have hall := ih.waiting hrun
      rw [hqueue, ← List.append_assoc] at hall
      rw [← hall, List.append_assoc _ rest]
      refine ⟨List.prefix_append .., fun hrun' => ?_⟩
      rcases hrest with hstopped | hrest
      · cases hstopped.symm.trans hrun'
      · rw [hrest]

/-- Commands are taken in the order in which they have been queued, each of them once. -/
theorem commands_inOrder (as : List Act) (s : System) :
    InOrder (trace executed as s) (s.channel.commands ++ trace orders as s)
      (s.play as).channel.commands ((s.play as).channel.isStopped = false) := by
  refine inOrder_play Channel.commands executed orders (fun a s => ?_) (fun a s hstop => ?_) as s
  · obtain ⟨commands, cancels, hcommands, -, hqueues⟩ := (moves_act a s).queues
    exact ⟨commands, hcommands, hqueues.imp_right (·.1)⟩
  · rw [executed, task?_of_stopped hstop]
    rfl

/-- So are the cancels of subscriptions that have been let go. -/
theorem cancels_inOrder (as : List Act) (s : System) :
    InOrder (trace withdrawn as s) (s.channel.cancels ++ trace loses as s)
      (s.play as).channel.cancels ((s.play as).channel.isStopped = false) := by
  refine inOrder_play Channel.cancels withdrawn loses (fun a s => ?_) (fun a s hstop => ?_) as s
  · obtain ⟨commands, cancels, -, hcancels, hqueues⟩ := (moves_act a s).queues
    exact ⟨cancels, hcancels, hqueues.imp_right (·.2)⟩
  · rw [withdrawn, task?_of_stopped hstop]
    rfl

end System

end GroundLink.Connection
