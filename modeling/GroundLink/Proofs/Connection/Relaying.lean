import GroundLink.Proofs.Connection.Using

/-!
# Texts and frames

Only the dispatcher takes texts of the server. It takes them in the order in which they have come,
and sends each of them to the listeners as a frame once it has done with it.
-/

namespace GroundLink.Connection

open Protocol

/-! ### The dispatcher -/

/-- The frame that the dispatcher handles. -/
def Note.frame? : Note → Option Frame
  | .handled f => some f
  | _ => none

/-- The frames that the dispatcher has handled. -/
def handledFrames (h : List Note) : List Frame := h.filterMap Note.frame?

/-- Whether a note is of a task of the dispatcher. -/
def Note.isTask : Note → Bool
  | .sent .. | .cancelled .. | .handled _ => true
  | _ => false

@[simp] lemma handledFrames_nil : handledFrames [] = [] := rfl

@[simp] lemma handledFrames_append (h h' : List Note) :
    handledFrames (h ++ h') = handledFrames h ++ handledFrames h' := by
  simp [handledFrames]

variable {ch ch' ch'' : Channel} {frame : Option Frame} {o : Option ListenerId} {s s' : System}

namespace Channel

/-- The frame that is sent to the listeners when there is room to write. -/
def flight (ch : Channel) : Option Frame :=
  match ch.phase with
  | .writing _ frame => frame
  | _ => none

lemma flight_of_phase (h : ch'.phase = ch.phase) : ch'.flight = ch.flight := by
  rw [flight, h]
  rfl

/-- Whether a frame that is to be sent to the listeners is none of the server state. -/
def Silent (frame : Option Frame) : Prop := ∀ f, frame = some f → f.state? = none

/-- What becomes of a frame that is to be sent to the listeners, and of what else is not about
requests and calls. -/
inductive Passes (frame : Option Frame) (inbound : List String) (held : Bool) (f : Fanout) :
    Channel → Prop
  | sent {ch : Channel} : ch.phase = .ready → ch.inbound = inbound → ch.held = held →
      ch.fanout = frame.elim f f.publish → Passes frame inbound held f ch
  /-- It waits for what is being written. -/
  | waits {ch : Channel} (r : NumberedRequest) : Silent frame →
      ch.phase = .writing r frame → ch.inbound = inbound → ch.held = held → ch.fanout = f →
      Passes frame inbound held f ch
  /-- The dispatcher stops, and nobody hears it. -/
  | lost {ch : Channel} : ch.isStopped = true → ch.held = held → ch.fanout = f →
      Passes frame inbound held f ch

lemma passes_publish (frame : Option Frame) (ch : Channel) (h : ch.phase = .ready) :
    Passes frame ch.inbound ch.held ch.fanout (publish frame ch) := by
  cases frame <;> exact .sent h rfl rfl rfl

lemma passes_write (r : NumberedRequest) (hframe : Silent frame) (ch : Channel) :
    Passes frame ch.inbound ch.held ch.fanout (write r frame ch) := by
  unfold write
  split
  · exact .lost rfl rfl rfl
  · split
    · cases frame <;> exact .sent rfl rfl rfl rfl
    · exact .waits r hframe rfl rfl rfl rfl

lemma passes_cancel (c : CallId) (hframe : Silent frame) (ch : Channel) :
    Passes frame ch.inbound ch.held ch.fanout (cancel c frame ch) :=
  passes_write ⟨ch.nextId, .cancel c⟩ hframe
    { ch with nextId := ch.nextId.next, routes := ch.routes.erase c }

lemma silent_none : Silent none := by rintro f ⟨⟩

lemma passes_send (r : Request) (w : Option Waiter) (ch : Channel) :
    Passes none ch.inbound ch.held ch.fanout (send r w ch) := by
  cases w with
  | none =>
    exact passes_write ⟨ch.nextId, r⟩ silent_none { ch.sweep with nextId := ch.nextId.next }
  | some w =>
    exact passes_write ⟨ch.nextId, r⟩ silent_none
      (expect ch.nextId (some w) { ch.sweep with nextId := ch.nextId.next })

lemma passes_handleReply (reply : Reply) (hframe : Silent frame) (ch : Channel)
    (h : ch.phase = .ready) :
    Passes frame ch.inbound ch.held ch.fanout (handleReply reply frame ch) := by
  obtain ⟨pending, abandoned, routes, mailboxes, hsend | ⟨c, -, hcancel⟩⟩ :=
    reacts_handleReply reply ch
  · simp only [hsend]
    exact passes_publish frame { ch with
      traffic := ch.traffic.countReply reply.rejection.isSome
      pending, abandoned, routes, mailboxes } h
  · simp only [hcancel]
    exact passes_cancel c hframe { ch with
      traffic := ch.traffic.countReply reply.rejection.isSome
      pending, abandoned, routes, mailboxes }

/-- The parts of a channel that an event leaves alone. -/
lemma handleEvent_eq (u : Update) (ch : Channel) :
    (handleEvent u ch).phase = ch.phase ∧ (handleEvent u ch).inbound = ch.inbound
      ∧ (handleEvent u ch).held = ch.held ∧ (handleEvent u ch).fanout = ch.fanout := by
  unfold handleEvent
  dsimp only
  split
  · exact ⟨rfl, rfl, rfl, rfl⟩
  · split <;> exact ⟨rfl, rfl, rfl, rfl⟩

/-- Takes a text of the server, and sends a frame to the listeners in the end. -/
def handle (text : String) (frame : Option Frame) (ch : Channel) : Channel :=
  let ch := { ch with traffic := ch.traffic.countReceived }
  match Frame.decode text with
  | .reply r => handleReply r frame ch
  | .state _ => publish frame { ch with traffic := ch.traffic.countState }
  | .event u => publish frame (handleEvent u ch)
  | .unknown e => publish frame { ch with traffic := ch.traffic.countUnknown e.kind }

/-- Only a reply can make the dispatcher write something before it sends the frame. -/
lemma passes_handle (text : String) (hframe : ∀ r, Frame.decode text = .reply r → Silent frame)
    (ch : Channel) (h : ch.phase = .ready) :
    Passes frame ch.inbound ch.held ch.fanout (handle text frame ch) := by
  unfold handle
  cases htext : Frame.decode text with
  | reply r =>
    exact passes_handleReply r (hframe r htext) { ch with traffic := ch.traffic.countReceived } h
  | state s =>
    exact passes_publish frame { ch with traffic := ch.traffic.countReceived.countState } h
  | unknown e =>
    exact passes_publish frame
      { ch with traffic := ch.traffic.countReceived.countUnknown e.kind } h
  | event u =>
    obtain ⟨hphase, hinbound, hheld, hfanout⟩ :=
      handleEvent_eq u { ch with traffic := ch.traffic.countReceived }
    have hpasses := passes_publish frame _ (hphase.trans h)
    rw [hinbound, hheld, hfanout] at hpasses
    exact hpasses

/-- The frame that is made of a text, if anybody listens. -/
def copyFor (text : String) (f : Fanout) : Option Frame :=
  if f.isHeard then some (Frame.decode text) else none

lemma receive_eq (text : String) (ch : Channel) :
    receive text ch = handle text (copyFor text ch.fanout) ch := by
  unfold receive handle copyFor
  cases Frame.decode text <;> rfl

/-- A text is sent on as a frame, if anybody listens. -/
lemma passes_receive (text : String) (ch : Channel) (h : ch.phase = .ready) :
    Passes (copyFor text ch.fanout) ch.inbound ch.held ch.fanout (receive text ch) := by
  rw [receive_eq]
  refine passes_handle text (fun r htext f hf => ?_) ch h
  rw [copyFor, htext] at hf
  split at hf <;> cases hf
  rfl

lemma flight_of_ready (h : ch.phase = .ready) : ch.flight = none := by rw [flight, h]

lemma flight_of_stopped (h : ch.isStopped = true) : ch.flight = none := by
  unfold isStopped at h
  unfold flight
  cases hphase : ch.phase with
  | writing r frame =>
    rw [hphase] at h
    cases h
  | _ => rfl

/-- What a task does for the listeners, and how it takes the texts of the server: what it handles is
the next text, and what it sends is what has been waiting, or what it handles. -/
structure Relays (ch ch' : Channel) (handled : List Frame) : Prop where
  held : ch'.held = ch.held
  silent : Silent ch'.flight
  texts : ch'.isStopped = false →
    handled ++ ch'.inbound.map Frame.decode = ch.inbound.map Frame.decode
  sent : ∃ sent : Option Frame, ch'.fanout = sent.elim ch.fanout ch.fanout.publish
    ∧ (ch'.isStopped = false → ch.fanout.isHeard = true →
      sent.toList ++ ch'.flight.toList = ch.flight.toList ++ handled)

lemma Passes.relays {inbound : List String} {handled : List Frame}
    (h : Passes frame inbound ch.held ch.fanout ch')
    (hinbound : handled ++ inbound.map Frame.decode = ch.inbound.map Frame.decode)
    (hframe : ch.fanout.isHeard = true → frame.toList = ch.flight.toList ++ handled) :
    Relays ch ch' handled := by
  cases h with
  | sent hphase hin hheld hfanout =>
    have hflight := flight_of_ready hphase
    refine ⟨hheld, hflight ▸ silent_none, fun _ => hin ▸ hinbound, frame, hfanout, ?_⟩
    intro _ hheard
    rw [hflight, ← hframe hheard]
    exact List.append_nil _
  | waits r hsilent hphase hin hheld hfanout =>
    have hflight : ch'.flight = frame := by rw [flight, hphase]
    refine ⟨hheld, hflight ▸ hsilent, fun _ => hin ▸ hinbound, none, hfanout, ?_⟩
    intro _ hheard
    rw [hflight, ← hframe hheard]
    rfl
  | lost hstop hheld hfanout =>
    have hrun : ch'.isStopped = false → False := by simp [hstop]
    exact ⟨hheld, flight_of_stopped hstop ▸ silent_none, fun h => (hrun h).elim, none, hfanout,
      fun h => (hrun h).elim⟩

lemma relays_stop (ch : Channel) : Relays ch ch.stop [] :=
  ⟨rfl, silent_none, by rintro ⟨⟩, none, rfl, by rintro ⟨⟩⟩

lemma handledFrames_receive (text : String) (rest : List String) (ch : Channel) :
    handledFrames (ch.taskNotes (.receive text rest)) = [Frame.decode text] := by
  simp only [taskNotes]
  split
  case h_1 r hr =>
    rw [hr]
    cases cancelledBy r ch (ch.perform (.receive text rest)) <;> rfl
  case h_2 => rfl

lemma relays_perform {task : Task} (htask : ch.task? = some task) (hflight : Silent ch.flight) :
    Relays ch (ch.perform task) (handledFrames (ch.taskNotes task)) := by
  have hready (h : ch.phase = .ready) : (none : Option Frame).toList = ch.flight.toList ++ [] := by
    rw [flight_of_ready h]
    rfl
  cases due_of_task htask with
  | @write r frame hphase =>
    have hwaiting : ch.flight = frame := by rw [flight, hphase]
    rw [hwaiting] at hflight
    refine (passes_write r hflight ch).relays rfl fun _ => ?_
    rw [hwaiting]
    exact (List.append_nil _).symm
  | @execute c rest hphase => cases c with
    | send r w =>
      have hsend : Passes none ch.inbound ch.held ch.fanout
          (ch.perform (.execute (.send r w) rest)) :=
        passes_send r w { ch with commands := rest }
      exact hsend.relays rfl fun _ => hready hphase
    | close => exact relays_stop _
  | unused | drained => exact relays_stop _
  | @cancel c rest hphase =>
    have hcancel : Passes none ch.inbound ch.held ch.fanout (ch.perform (.cancel c rest)) :=
      passes_cancel c silent_none { ch with cancels := rest }
    exact hcancel.relays rfl fun _ => hready hphase
  | @receive text rest hhears =>
    have hreceive : Passes (copyFor text ch.fanout) rest ch.held ch.fanout
        (ch.perform (.receive text rest)) :=
      passes_receive text { ch with inbound := rest } hhears.phase
    rw [handledFrames_receive]
    refine hreceive.relays ?_ fun hheard => ?_
    · rw [hhears.inbound]
      rfl
    · rw [flight_of_ready hhears.phase, copyFor, if_pos hheard]
      rfl

end Channel

/-! ### Acts -/

namespace System

/-- The texts that the server sends with acts. -/
def arrivals : List Act → System → List String
  | [], _ => []
  | a :: as, s => s.arriving a ++ arrivals as (s.act a)

/-- Only the dispatcher does its tasks. -/
lemma isTask_notes {a : Act} (ha : a ≠ .dispatch) (s : System) :
    ∀ n ∈ s.notes a, n.isTask = false := by
  have hstop : ∀ n ∈ Channel.stopNotes s.channel (s.act a).channel, n.isTask = false := by
    intro n hn
    unfold Channel.stopNotes at hn
    split at hn
    · obtain rfl := List.mem_singleton.mp hn
      rfl
    · cases hn
  have hdoings : ∀ n ∈ s.doings a, n.isTask = false := by
    intro n hn
    unfold doings at hn
    split at hn
    case h_1 t =>
      split at hn
      case h_1 op _ =>
        rw [Operation.pollNotes, List.mem_append] at hn
        rcases hn with hn | hn
        · cases hx : op.exchange? with
          | none => simp [hx] at hn
          | some x =>
            simp only [hx, Option.map_some, Option.getD_some, Exchange.queueNotes] at hn
            split at hn <;> simp_all [Note.isTask]
        · split at hn
          · split at hn <;> simp_all [Note.isTask]
          · cases hn
      case h_2 => cases hn
    case h_2 t =>
      split at hn
      case h_1 op _ => cases op <;> simp_all [Operation.abandonNotes, Note.isTask]
      case h_2 => cases hn
    case h_3 t =>
      split at hn
      case h_3 =>
        obtain ⟨u, -, rfl⟩ := List.mem_map.mp hn
        rfl
      all_goals cases hn
    case h_4 t => split at hn <;> simp_all [Note.isTask]
    case h_5 => exact absurd rfl ha
    case h_6 => cases hn
  exact fun n hn => (List.mem_append.mp hn).elim (hdoings n) (hstop n)

/-- Only the dispatcher handles frames. -/
lemma handledFrames_notes {a : Act} (ha : a ≠ .dispatch) (s : System) :
    handledFrames (s.notes a) = [] := by
  refine List.filterMap_eq_nil_iff.mpr fun n hn => ?_
  have htask := isTask_notes ha s n hn
  cases n <;> first | rfl | cases htask

/-- Only the dispatcher numbers requests. -/
lemma numbered_notes {a : Act} (ha : a ≠ .dispatch) (s : System) :
    numbered (s.notes a) = [] := by
  refine List.filterMap_eq_nil_iff.mpr fun n hn => ?_
  have htask := isTask_notes ha s n hn
  cases n <;> first | rfl | cases htask

lemma act_dispatch_channel (s : System) :
    (s.act .dispatch).channel = (s.channel.task?.map (s.channel.perform ·)).getD s.channel := by
  rw [act, Channel.step?_eq]

/-- What the dispatcher sends and handles with an act. -/
lemma relays_dispatch (hsilent : Channel.Silent s.channel.flight) :
    s.channel.Relays (s.act .dispatch).channel (handledFrames (s.notes .dispatch)) := by
  have hstop : ∀ ch ch' : Channel, handledFrames (Channel.stopNotes ch ch') = [] := by
    intro ch ch'
    unfold Channel.stopNotes
    split <;> rfl
  rw [notes, handledFrames_append, hstop, List.append_nil, act_dispatch_channel]
  cases htask : s.channel.task? with
  | none =>
    simp only [doings, htask]
    exact ⟨rfl, hsilent, fun _ => rfl, none, rfl, fun _ _ => (List.append_nil _).symm⟩
  | some task =>
    simp only [doings, htask]
    exact Channel.relays_perform htask hsilent

/-- A dispatcher that has stopped does nothing any more. -/
lemma act_dispatch_of_stopped (hstop : s.channel.isStopped = true) : s.act .dispatch = s := by
  have htask : s.channel.task? = none := by
    cases htask : s.channel.task? with
    | none => rfl
    | some task => cases hstop.symm.trans (Channel.isStopped_of_task htask)
  simp only [act, Channel.step?_eq, htask]
  rfl

lemma play_append (as bs : List Act) (s : System) :
    s.play (as ++ bs) = (s.play as).play bs := by
  induction as generalizing s with
  | nil => rfl
  | cons a as ih => exact ih (s.act a)

/-- A dispatcher that has stopped does not go on. -/
lemma isStopped_act (hstop : s.channel.isStopped = true) (a : Act) :
    (s.act a).channel.isStopped = true := by
  by_cases ha : a = .dispatch
  · rw [ha, act_dispatch_of_stopped hstop, hstop]
  · rcases (adds_act ha s).texts with hstop' | ⟨hphase, -⟩
    · exact hstop'
    · rw [Channel.isStopped, hphase]
      exact hstop

lemma isStopped_play (hstop : s.channel.isStopped = true) (as : List Act) :
    (s.play as).channel.isStopped = true := by
  induction as generalizing s with
  | nil => exact hstop
  | cons a as ih => exact ih (isStopped_act hstop a)

lemma running_of_play {as : List Act} (hrun : (s.play as).channel.isStopped = false) :
    s.channel.isStopped = false := by
  by_contra hstop
  rw [isStopped_play (eq_true_of_ne_false hstop) as] at hrun
  cases hrun

lemma silent_act (hsilent : Channel.Silent s.channel.flight) (a : Act) :
    Channel.Silent (s.act a).channel.flight := by
  by_cases ha : a = .dispatch
  · rw [ha]
    exact (relays_dispatch hsilent).silent
  · rcases (adds_act ha s).texts with hstop | ⟨hphase, -⟩
    · rw [Channel.flight_of_stopped hstop]
      exact Channel.silent_none
    · rwa [Channel.flight_of_phase hphase]

/-- The texts of the server are handled in the order in which they have come. -/
lemma texts_act (hsilent : Channel.Silent s.channel.flight) {a : Act}
    (hrun : (s.act a).channel.isStopped = false) :
    handledFrames (s.notes a) ++ (s.act a).channel.inbound.map Frame.decode
      = (s.channel.inbound ++ s.arriving a).map Frame.decode := by
  by_cases ha : a = .dispatch
  · subst ha
    have harriving : s.arriving .dispatch = [] := rfl
    rw [(relays_dispatch hsilent).texts hrun, harriving, List.append_nil]
  · rcases (adds_act ha s).texts with hstop | ⟨-, hinbound⟩
    · cases hstop.symm.trans hrun
    · rw [handledFrames_notes ha, hinbound, List.nil_append]

lemma texts_play (hsilent : Channel.Silent s.channel.flight) (as : List Act)
    (hrun : (s.play as).channel.isStopped = false) :
    handledFrames (s.log as) ++ (s.play as).channel.inbound.map Frame.decode
      = (s.channel.inbound ++ s.arrivals as).map Frame.decode := by
  induction as generalizing s with
  | nil =>
    rw [log, arrivals, play, List.append_nil]
    rfl
  | cons a as ih =>
    have hrun' : (s.act a).channel.isStopped = false := running_of_play hrun
    rw [log, arrivals, play, handledFrames_append, List.append_assoc,
      ih (silent_act hsilent a) hrun, List.map_append, ← List.append_assoc,
      texts_act hsilent hrun', ← List.map_append, List.append_assoc]

end System

end GroundLink.Connection
