import GroundLink.Proofs.Connection.Serving

/-!
# When a frame is sent

The dispatcher does what a text asks of it, and sends the frame that it has made of the text to the
listeners in the end. What it does is the same whoever listens, and the frame comes on top of it. If
there is something left to write and no room for it, the frame waits with it; and if the dispatcher
stops, the frame is not sent at all.
-/

namespace GroundLink.Connection

open Protocol

variable {ch ch' : Channel} {frame : Option Frame} {inbound : List String} {held : Bool}
  {f : Fanout} {s : System}

namespace Channel

/-! ### Handling -/

/-- Sends a frame if there is nothing left to do, or has it wait with what is to be written. -/
def conclude (frame : Option Frame) (ch : Channel) : Channel :=
  match ch.phase with
  | .ready => publish frame ch
  | .writing r _ => { ch with phase := .writing r frame }
  | .stopped => ch

lemma publish_eq (frame : Option Frame) (ch : Channel) (h : ch.phase = .ready) :
    publish frame ch = conclude frame (publish none ch) := by
  rw [conclude, publish, h]

lemma write_eq (r : NumberedRequest) (frame : Option Frame) (ch : Channel) :
    write r frame ch = conclude frame (write r none ch) := by
  unfold write
  split
  · rfl
  · split <;> rfl

lemma cancel_eq (c : CallId) (frame : Option Frame) (ch : Channel) :
    cancel c frame ch = conclude frame (cancel c none ch) :=
  write_eq ..

lemma handleReply_eq (reply : Reply) (frame : Option Frame) (h : ch.phase = .ready) :
    handleReply reply frame ch = conclude frame (handleReply reply none ch) := by
  obtain ⟨pending, abandoned, routes, mailboxes, hsend | ⟨c, -, hcancel⟩⟩ :=
    reacts_handleReply reply ch
  · simp only [hsend]
    exact publish_eq _ _ h
  · simp only [hcancel]
    exact cancel_eq ..

/-- What a text makes the dispatcher do does not depend on the frame that it sends in the end. -/
theorem handle_eq (text : String) (frame : Option Frame) (h : ch.phase = .ready) :
    handle text frame ch = conclude frame (handle text none ch) := by
  unfold handle
  cases Frame.decode text with
  | reply r => exact handleReply_eq r frame h
  | state s => exact publish_eq _ _ h
  | event u =>
    obtain ⟨hphase, -⟩ := handleEvent_eq u { ch with traffic := ch.traffic.countReceived }
    exact publish_eq _ _ (hphase.trans h)
  | unknown e => exact publish_eq _ _ h

/-! ### Tasks -/

namespace Task

/-- The frame of the text that is handled with a task. -/
def frame? : Task → Option Frame
  | .write _ frame => frame
  | .receive text _ => some (Frame.decode text)
  | _ => none

/-- The frame that is sent in the end. -/
def copy? (f : Fanout) : Task → Option Frame
  | .write _ frame => frame
  | .receive text _ => copyFor text f
  | _ => none

lemma copy?_of_heard (h : f.isHeard = true) (task : Task) : task.copy? f = task.frame? := by
  cases task with
  | receive text rest => exact if_pos h
  | _ => rfl

end Task

/-- Does all that belongs to a task, but for the frame that is sent in the end. -/
def fulfil (task : Task) (ch : Channel) : Channel :=
  match task with
  | .write r _ => ch.write r none
  | .execute c rest => execute c { ch with commands := rest }
  | .cancel c rest => cancel c none { ch with cancels := rest }
  | .receive text rest => handle text none { ch with inbound := rest }
  | .stop => ch.stop

/-- Whatever waits for room is written first, and everything else is taken when the dispatcher is
ready. -/
lemma phase_of_task {task : Task} (htask : ch.task? = some task) :
    match task with
    | .write r frame => ch.phase = .writing r frame
    | _ => ch.phase = .ready := by
  cases due_of_task htask with
  | receive hhears => exact hhears.phase
  | write hphase | execute hphase | unused hphase | cancel hphase | drained hphase => exact hphase

/-- The listeners come in with the frame that is sent in the end, if at all. -/
lemma passes_fulfil {task : Task} (htask : ch.task? = some task) :
    ∃ inbound, Passes none inbound ch.held ch.fanout (ch.fulfil task) := by
  cases task with
  | write r frame => exact ⟨_, passes_write r silent_none ch⟩
  | execute c rest => cases c with
    | send r w => exact ⟨_, passes_send r w { ch with commands := rest }⟩
    | close => exact ⟨[], .lost rfl rfl rfl⟩
  | cancel c rest => exact ⟨_, passes_cancel c silent_none { ch with cancels := rest }⟩
  | receive text rest =>
    have hready : ({ ch with inbound := rest } : Channel).phase = .ready := phase_of_task htask
    exact ⟨_, passes_handle text (fun _ _ => silent_none) _ hready⟩
  | stop => exact ⟨[], .lost rfl rfl rfl⟩

lemma Passes.fanout_eq (h : Passes none inbound held f ch) : ch.fanout = f := by
  cases h with
  | sent _ _ _ hfanout => exact hfanout
  | waits _ _ _ _ _ hfanout => exact hfanout
  | lost _ _ hfanout => exact hfanout

lemma Passes.conclude_none (h : Passes none inbound held f ch) : conclude none ch = ch := by
  cases h with
  | sent hphase => exact (publish_eq none ch hphase).symm
  | waits r _ hphase =>
    rw [conclude, hphase]
    dsimp only
    rw [← hphase]
  | lost hstop =>
    rw [isStopped] at hstop
    unfold conclude
    cases hphase : ch.phase with
    | stopped => rfl
    | ready | writing =>
      rw [hphase] at hstop
      cases hstop

/-- The dispatcher does all that belongs to a task, and then sends the frame. -/
theorem perform_eq {task : Task} (htask : ch.task? = some task) :
    ch.perform task = conclude (task.copy? ch.fanout) (ch.fulfil task) := by
  obtain ⟨inbound, hpasses⟩ := passes_fulfil htask
  cases task with
  | write r frame => exact write_eq ..
  | execute c rest => exact hpasses.conclude_none.symm
  | cancel c rest => exact hpasses.conclude_none.symm
  | receive text rest =>
    have hready : ({ ch with inbound := rest } : Channel).phase = .ready := phase_of_task htask
    exact (receive_eq ..).trans (handle_eq _ _ hready)
  | stop => exact hpasses.conclude_none.symm

lemma fanout_fulfil {task : Task} (htask : ch.task? = some task) :
    (ch.fulfil task).fanout = ch.fanout := by
  obtain ⟨inbound, hpasses⟩ := passes_fulfil htask
  exact hpasses.fanout_eq

/-- The text that is handled with a task is taken with it, or has been waiting. -/
lemma frame?_of_task {task : Task} (htask : ch.task? = some task) :
    task.frame?.toList = ch.flight.toList ++ handledFrames (ch.taskNotes task) := by
  have hphase := phase_of_task htask
  cases task with
  | write r frame =>
    dsimp only at hphase
    rw [flight, hphase]
    exact (List.append_nil _).symm
  | receive text rest =>
    rw [handledFrames_receive, flight_of_ready hphase]
    rfl
  | execute c rest =>
    rw [flight_of_ready hphase]
    cases c <;> rfl
  | cancel c rest =>
    rw [flight_of_ready hphase]
    rfl
  | stop =>
    rw [flight_of_ready hphase]
    rfl

/-- Whether the dispatcher has done with what it has begun. -/
def isReady (ch : Channel) : Bool :=
  match ch.phase with
  | .ready => true
  | _ => false

lemma phase_of_isReady (h : ch.isReady = true) : ch.phase = .ready := by
  rw [isReady] at h
  cases hphase : ch.phase with
  | ready => rfl
  | writing | stopped =>
    rw [hphase] at h
    cases h

/-- With its next task the dispatcher has done all that the text of a frame asks for, while the
listeners are as they have been, and then it sends the frame. -/
def Finishes (frame : Frame) (ch ch' : Channel) : Prop :=
  ∃ task, ch.task? = some task ∧ task.frame? = some frame ∧ (ch.fulfil task).phase = .ready
    ∧ (ch.fulfil task).fanout = ch.fanout ∧ ch' = publish (some frame) (ch.fulfil task)

end Channel

/-! ### Settled frames -/

namespace System

/-- The frame that is settled with an act: all that its text asks for has been done, and the
dispatcher has not stopped. -/
def settles (a : Act) (s : System) : List Frame :=
  match s.task? a with
  | some task => if (s.channel.fulfil task).isReady then task.frame?.toList else []
  | none => []

lemma settles_of_ne {a : Act} (ha : a ≠ .dispatch) (s : System) : s.settles a = [] := by
  rw [settles, task?_of_ne ha]

lemma settles_of_stopped (hstop : s.channel.isStopped = true) (a : Act) : s.settles a = [] := by
  rw [settles, task?_of_stopped hstop]

lemma act_dispatch_of_task {task : Channel.Task} (htask : s.channel.task? = some task) :
    (s.act .dispatch).channel
      = Channel.conclude (task.copy? s.channel.fanout) (s.channel.fulfil task) := by
  rw [act_dispatch_channel, htask, ← Channel.perform_eq htask]
  rfl

lemma act_dispatch_of_waiting (htask : s.channel.task? = none) : s.act .dispatch = s := by
  rw [act, Channel.step?_eq, htask]
  rfl

/-- What the dispatcher sends are the frames that are settled. -/
lemma fanout_settled (hheard : s.channel.fanout.isHeard = true) :
    (s.act .dispatch).channel.fanout
      = (s.settles .dispatch).foldl (fun f frame => f.publish frame) s.channel.fanout := by
  cases htask : s.channel.task? with
  | none =>
    have hnone : s.task? .dispatch = none := htask
    rw [act_dispatch_of_waiting htask, settles, hnone]
    rfl
  | some task =>
    have hsome : s.task? .dispatch = some task := htask
    have hfanout := Channel.fanout_fulfil htask
    rw [act_dispatch_of_task htask, settles, hsome, task.copy?_of_heard hheard]
    dsimp only
    rw [Channel.conclude, Channel.isReady]
    cases (s.channel.fulfil task).phase with
    | ready => cases task.frame? with
      | none => exact hfanout
      | some frame => exact congrArg (·.publish frame) hfanout
    | writing r frame => exact hfanout
    | stopped => exact hfanout

/-- A frame is sent when all that its text asks for has been done. -/
lemma finishes_of_settles {a : Act} {frame : Frame} (hheard : s.channel.fanout.isHeard = true)
    (hframe : frame ∈ s.settles a) : s.channel.Finishes frame (s.act a).channel := by
  by_cases ha : a = .dispatch
  · subst ha
    rw [settles] at hframe
    cases htask : s.channel.task? with
    | none =>
      have hnone : s.task? .dispatch = none := htask
      rw [hnone] at hframe
      cases hframe
    | some task =>
      have hsome : s.task? .dispatch = some task := htask
      rw [hsome] at hframe
      dsimp only at hframe
      split at hframe
      case isTrue hready =>
        have hphase := Channel.phase_of_isReady hready
        have hsent : task.frame? = some frame := Option.mem_toList.mp hframe
        refine ⟨task, htask, hsent, hphase, Channel.fanout_fulfil htask, ?_⟩
        rw [act_dispatch_of_task htask, task.copy?_of_heard hheard, hsent, Channel.conclude, hphase]
      case isFalse => cases hframe
  · rw [settles_of_ne ha] at hframe
    cases hframe

/-- Of what has been waiting or is handled with an act, one frame at most is not settled. While the
dispatcher runs it is the one that waits. -/
lemma settles_handled (hheard : s.channel.fanout.isHeard = true) (a : Act) :
    ∃ rest, s.channel.flight.toList ++ handledFrames (s.notes a) = s.settles a ++ rest
      ∧ rest.length ≤ 1
      ∧ ((s.act a).channel.isStopped = false → rest = (s.act a).channel.flight.toList) := by
  by_cases ha : a = .dispatch
  · subst ha
    have hnotes : handledFrames (s.notes .dispatch) = handledFrames (s.doings .dispatch) := by
      rw [notes, handledFrames_append]
      unfold Channel.stopNotes
      split <;> exact List.append_nil _
    cases htask : s.channel.task? with
    | none =>
      have hnone : s.task? .dispatch = none := htask
      refine ⟨s.channel.flight.toList, ?_, Option.length_toList_le, fun _ => ?_⟩
      · rw [hnotes, doings, htask, settles, hnone]
        exact List.append_nil _
      · rw [act_dispatch_of_waiting htask]
    | some task =>
      have hsome : s.task? .dispatch = some task := htask
      have hframe := Channel.frame?_of_task htask
      rw [hnotes, doings, htask, ← hframe, settles, hsome, act_dispatch_of_task htask,
        task.copy?_of_heard hheard]
      dsimp only
      rw [Channel.isReady, Channel.conclude]
      cases hphase : (s.channel.fulfil task).phase with
      | ready =>
        refine ⟨[], (List.append_nil _).symm, Nat.zero_le _, fun _ => ?_⟩
        have hready : (Channel.publish task.frame? (s.channel.fulfil task)).phase = .ready := by
          cases task.frame? <;> exact hphase
        rw [Channel.flight_of_ready hready]
        rfl
      | writing r frame => exact ⟨_, rfl, Option.length_toList_le, fun _ => rfl⟩
      | stopped =>
        refine ⟨_, rfl, Option.length_toList_le, fun hrun => ?_⟩
        rw [Channel.isStopped, hphase] at hrun
        cases hrun
  · refine ⟨s.channel.flight.toList, ?_, Option.length_toList_le, fun hrun => ?_⟩
    · rw [settles_of_ne ha, handledFrames_notes ha]
      exact List.append_nil _
    · rcases (adds_act ha s).texts with hstop | ⟨hphase, -⟩
      · cases hstop.symm.trans hrun
      · rw [Channel.flight_of_phase hphase]

end System

end GroundLink.Connection
