import GroundLink.Proofs.Connection.Ledger

/-!
# The dispatcher's steps

The ledger of a connection takes a few steps for each task of the dispatcher.
-/

namespace GroundLink.Connection

open Protocol

namespace Channel

/-- What is being written. -/
def hand (ch : Channel) : List NumberedRequest :=
  match ch.phase with
  | .writing r _ => [r]
  | _ => []

/-- The ledger of a connection, by the roles of its tickets. -/
def ledger (ρ : Ticket → Role) (ch : Channel) : Ledger where
  stopped := ch.isStopped
  commands := ch.commands
  cancels := ch.cancels
  nextId := ch.nextId
  pending := ch.pending
  abandoned := ch.abandoned
  routes := ch.routes
  written := ch.written
  hand := ch.hand
  mailbox := ch.mailbox
  nextTicket := ch.nextTicket
  role := ρ

variable {ρ : Ticket → Role} {τ : Nat}

/-! ### Parts of a channel -/

@[simp] lemma ledger_publish (frame : Option Frame) (ch : Channel) :
    (publish frame ch).ledger ρ = ch.ledger ρ := by
  cases frame <;> rfl

@[simp] lemma isStopped_publish (frame : Option Frame) (ch : Channel) :
    (publish frame ch).isStopped = ch.isStopped := by
  cases frame <;> rfl

lemma isStopped_of_ready {ch : Channel} (h : ch.phase = .ready) : ch.isStopped = false := by
  simp [isStopped, h]

/-- The dispatcher takes a text of the server where nothing else is to be done. -/
structure Hears (text : String) (rest : List String) (ch : Channel) : Prop where
  phase : ch.phase = .ready
  commands : ch.commands = []
  held : ch.held = true
  cancels : ch.cancels = []
  inbound : ch.inbound = text :: rest

/-- When a task is the next one. -/
inductive Due (ch : Channel) : Task → Prop
  | write {r : NumberedRequest} {frame : Option Frame} : ch.phase = .writing r frame →
      (ch.serverReads && ch.textRoom ≤ ch.backlog.length) = false → Due ch (.write r frame)
  | execute {c : Command} {rest : List Command} : ch.phase = .ready → ch.commands = c :: rest →
      Due ch (.execute c rest)
  /-- Nobody uses the connection any more. -/
  | unused : ch.phase = .ready → ch.commands = [] → ch.held = false → Due ch .stop
  | cancel {c : CallId} {rest : List CallId} : ch.phase = .ready → ch.commands = [] →
      ch.held = true → ch.cancels = c :: rest → Due ch (.cancel c rest)
  | receive {text : String} {rest : List String} : ch.Hears text rest → Due ch (.receive text rest)
  /-- The server has hung up, and all that it has sent is taken. -/
  | drained : ch.phase = .ready → ch.commands = [] → ch.held = true → ch.cancels = [] →
      ch.inbound = [] → ch.serverSpeaks = false → Due ch .stop

lemma due_of_task {ch : Channel} {task : Task} (htask : ch.task? = some task) : ch.Due task := by
  unfold task? at htask
  split at htask
  case h_1 => cases htask
  case h_2 hphase =>
    split at htask
    case isTrue => cases htask
    case isFalse hroom =>
      cases htask
      exact .write hphase (eq_false_of_ne_true hroom)
  case h_3 hphase =>
    split at htask
    case h_1 hcommands =>
      cases htask
      exact .execute hphase hcommands
    case h_2 hcommands =>
      split at htask
      case isTrue hheld =>
        cases htask
        exact .unused hphase hcommands (by simpa using hheld)
      case isFalse hheld =>
        have hheld' : ch.held = true := by simpa using hheld
        split at htask
        case h_1 hcancels =>
          cases htask
          exact .cancel hphase hcommands hheld' hcancels
        case h_2 hcancels hinbound =>
          cases htask
          exact .receive ⟨hphase, hcommands, hheld', hcancels, hinbound⟩
        case h_3 hcancels hinbound =>
          split at htask
          case isTrue => cases htask
          case isFalse hspeaks =>
            cases htask
            exact .drained hphase hcommands hheld' hcancels hinbound (eq_false_of_ne_true hspeaks)

lemma isStopped_of_task {ch : Channel} {task : Task} (htask : ch.task? = some task) :
    ch.isStopped = false := by
  cases due_of_task htask with
  | write hphase => simp [isStopped, hphase]
  | receive hhears => exact isStopped_of_ready hhears.phase
  | execute hphase | unused hphase | cancel hphase | drained hphase =>
    exact isStopped_of_ready hphase

lemma task?_eq_receive {text : String} {rest : List String} {ch : Channel} :
    ch.task? = some (.receive text rest) ↔ ch.Hears text rest := by
  constructor
  · intro htask
    cases due_of_task htask with
    | receive hhears => exact hhears
  · rintro ⟨hphase, hcommands, hheld, hcancels, hinbound⟩
    simp [task?, hphase, hcommands, hheld, hcancels, hinbound]

lemma hand_of_ready {ch : Channel} (h : ch.phase = .ready) : ch.hand = [] := by
  simp [hand, h]

lemma ledger_stop (ch : Channel) : ch.stop.ledger ρ = (ch.ledger ρ).halted := rfl

/-- A change of a mailbox that leaves no trace of those who have left. -/
lemma mailbox_updateMailbox {t : Ticket} {f : Mailbox → Mailbox} {ch : Channel}
    (h : ch.mailbox t ≠ .left ∨ f .left = .left) :
    (ch.updateMailbox t f).mailbox = Function.update ch.mailbox t (f (ch.mailbox t)) := by
  funext u
  by_cases hu : u = t
  · subst hu
    rw [Function.update_self]
    cases hm : ch.mailboxes.find? u with
    | none =>
      have hleft : ch.mailbox u = .left := by simp [mailbox, hm]
      have hf : f .left = .left := h.resolve_left (absurd hleft)
      rw [hleft, hf]
      simp [mailbox, updateMailbox, hm]
    | some m => simp [mailbox, updateMailbox, hm]
  · rw [Function.update_of_ne hu]
    simp [mailbox, updateMailbox, Table.find?_modify_of_ne (Ne.symm hu)]

lemma ledger_updateMailbox {t : Ticket} {f : Mailbox → Mailbox} {ch : Channel}
    (h : ch.mailbox t ≠ .left ∨ f .left = .left) :
    (ch.updateMailbox t f).ledger ρ = (ch.ledger ρ).setMailbox t (f (ch.mailbox t)) := by
  simp only [ledger, Ledger.setMailbox, mailbox_updateMailbox h]
  rfl

lemma mailbox_ne_left_of_waiting {t : Ticket} {ch : Channel}
    (h : (ch.mailbox t).waiting = true) : ch.mailbox t ≠ .left := by
  intro hleft
  simp [hleft, Mailbox.left] at h

lemma mailbox_ne_left_of_listening {t : Ticket} {ch : Channel}
    (h : (ch.mailbox t).listening = true) : ch.mailbox t ≠ .left := by
  intro hleft
  simp [hleft, Mailbox.left] at h

lemma stopNotes_of_eq {before after : Channel} (h : after.isStopped = before.isStopped) :
    stopNotes before after = [] := by
  simp [stopNotes, h]

lemma stopNotes_stop {ch : Channel} (h : ch.isStopped = false) :
    stopNotes ch ch.stop = [.stopped] := by
  rw [stopNotes, h]
  rfl

/-! ### Writing -/

lemma steps_stop {ch : Channel} (h : ch.isStopped = false) :
    (ch.ledger ρ).Steps τ (stopNotes ch ch.stop) (ch.stop.ledger ρ) := by
  rw [stopNotes_stop h, ledger_stop]
  exact (Ledger.Step.stop h).steps

/-- What is written goes out, waits, or finds that the server reads no more. -/
lemma steps_write (r : NumberedRequest) (frame : Option Frame) (ch : Channel)
    (h : ch.isStopped = false) :
    Ledger.Steps τ { ch.ledger ρ with hand := [r] } (stopNotes ch (ch.write r frame))
      ((ch.write r frame).ledger ρ) := by
  have hrun : ({ ch.ledger ρ with hand := [r] } : Ledger)
      = { ch.ledger ρ with stopped := false, hand := [r] } := by
    rw [← h]
    rfl
  unfold write
  split
  · rw [stopNotes_stop h, hrun]
    exact (Ledger.Step.stop rfl).steps
  · split
    · rw [stopNotes_of_eq (by rw [isStopped_publish, h]; rfl), ledger_publish, hrun]
      exact (Ledger.Step.write rfl rfl).steps
    · rw [stopNotes_of_eq (by rw [h]; rfl), hrun]
      exact .refl _

/-- A cancel is numbered and written. -/
lemma steps_cancel (c : CallId) (rest : List CallId) (frame : Option Frame) (ch : Channel)
    (h : ch.phase = .ready) (hrest : ch.cancels = rest) :
    Ledger.Steps τ { ch.ledger ρ with cancels := c :: rest }
      (.cancelled ch.nextId c :: stopNotes ch (ch.cancel c frame))
      ((ch.cancel c frame).ledger ρ) := by
  have hrun := isStopped_of_ready h
  have hstep := (Ledger.Step.cancel (τ := τ)
    (l := { ch.ledger ρ with cancels := c :: rest }) hrun (hand_of_ready h) rfl).steps
  refine hstep.trans ?_
  subst hrest
  exact steps_write ⟨ch.nextId, .cancel c⟩ frame
    { ch with nextId := ch.nextId.next, routes := ch.routes.erase c } hrun

/-- A request is numbered and written, after requests that nobody waits for have been forgotten. -/
lemma steps_send (request : Request) (w : Option Waiter) (rest : List Command) {ch : Channel}
    (h : ch.phase = .ready) (hcommands : ch.commands = .send request w :: rest) :
    (ch.ledger ρ).Steps τ
      (.sent ⟨ch.nextId, request⟩ w
        :: stopNotes ch (send request w { ch with commands := rest }))
      ((send request w { ch with commands := rest }).ledger ρ) := by
  have hrun := isStopped_of_ready h
  have hsweep := (Ledger.Step.sweep (τ := τ) (l := ch.ledger ρ) hrun).steps
  have hnumber := (Ledger.Step.number (τ := τ) (l := (ch.ledger ρ).swept)
    (w := w) hrun (hand_of_ready h) hcommands).steps
  refine (hsweep.trans hnumber).trans ?_
  cases w with
  | none =>
    exact steps_write ⟨ch.nextId, request⟩ none
      { ({ ch with commands := rest } : Channel).sweep with nextId := ch.nextId.next } hrun
  | some w =>
    exact steps_write ⟨ch.nextId, request⟩ none
      (expect ch.nextId (some w)
        { ({ ch with commands := rest } : Channel).sweep with nextId := ch.nextId.next }) hrun

/-! ### Replies -/

lemma nextId_ne (id : RequestId) : id.next ≠ id := by
  intro h
  have hval : id.val + 1 = id.val := congrArg RequestId.val h
  grind

@[simp] lemma nextId_publish (frame : Option Frame) (ch : Channel) :
    (publish frame ch).nextId = ch.nextId := by
  cases frame <;> rfl

lemma nextId_write (r : NumberedRequest) (frame : Option Frame) (ch : Channel) :
    (ch.write r frame).nextId = ch.nextId := by
  unfold write
  split
  · rfl
  · split
    · rw [nextId_publish]
    · rfl

lemma cancelledBy_of_eq {reply : Reply} {before after : Channel}
    (h : after.nextId = before.nextId) : cancelledBy reply before after = none := by
  rw [cancelledBy, if_pos h]

lemma cancelledBy_cancel {reply : Reply} {c : CallId} {frame : Option Frame}
    {before ch : Channel} (h : ch.nextId = before.nextId) (hc : reply.call = some c) :
    cancelledBy reply before (ch.cancel c frame) = some c := by
  have hnext : (ch.cancel c frame).nextId = before.nextId.next := by
    rw [cancel, nextId_write, h]
  rw [cancelledBy, hnext, if_neg (nextId_ne _), hc]

lemma call_of_opened {w : Waiter} {reply : Reply} {c : CallId} (h : opened? w reply = some c) :
    reply.call = some c := by
  unfold opened? at h
  split at h
  · exact h
  · cases h

lemma accepted_of_opened {w : Waiter} {reply : Reply} {c : CallId}
    (h : opened? w reply = some c) : accepted reply = some c := by
  rw [opened?] at h
  split at h
  case isTrue hopen =>
    rw [Bool.and_eq_true] at hopen
    rw [accepted, if_pos hopen.2, h]
  case isFalse => cases h

/-- What a reply comes to, whatever frame is sent in the end: it changes the tables of the
dispatcher and the mailbox of its caller, and a call that it opens in vain is cancelled. -/
def Reacts (reply : Reply) (ch : Channel) (result : Option Frame → Channel) : Prop :=
  ∃ (pending : Table RequestId Waiter) (abandoned : List RequestId) (routes : Table CallId Ticket)
    (mailboxes : Table Ticket Mailbox),
    (∀ frame, result frame = publish frame { ch with pending, abandoned, routes, mailboxes })
      ∨ ∃ c, accepted reply = some c ∧
        ∀ frame, result frame = cancel c frame { ch with pending, abandoned, routes, mailboxes }

lemma reacts_resolve (id : RequestId) (w : Waiter) (reply : Reply) (ch : Channel) :
    Reacts reply ch (resolve id w reply · ch) := by
  unfold resolve
  by_cases hwaiting : (ch.mailbox w.ticket).waiting = true
  · cases opened? w reply <;> exact ⟨_, _, _, _, .inl fun _ => if_pos hwaiting⟩
  · cases hopened : opened? w reply with
    | none => exact ⟨_, _, _, _, .inl fun _ => if_neg hwaiting⟩
    | some c =>
      exact ⟨_, _, _, _, .inr ⟨c, accepted_of_opened hopened, fun _ => if_neg hwaiting⟩⟩

lemma reacts_resolveLate (reply : Reply) (ch : Channel) :
    Reacts reply ch (resolveLate reply · ch) := by
  unfold resolveLate
  cases reply.request with
  | none => exact ⟨_, _, _, _, .inl fun _ => rfl⟩
  | some id =>
    by_cases hmem : ch.abandoned.elem id = true
    · simp only [hmem, if_true]
      split
      case h_1 c hrejection hcall =>
        exact ⟨_, _, _, _, .inr ⟨c, by simp [accepted, hrejection, hcall], fun _ => rfl⟩⟩
      case h_2 => exact ⟨_, _, _, _, .inl fun _ => rfl⟩
    · exact ⟨_, _, _, _, .inl fun _ => if_neg hmem⟩

lemma reacts_handleReply (reply : Reply) (ch : Channel) :
    Reacts reply { ch with traffic := ch.traffic.countReply reply.rejection.isSome }
      (handleReply reply · ch) := by
  unfold handleReply
  dsimp only
  split
  · exact reacts_resolve ..
  · exact reacts_resolveLate ..

/-- What is noted where a reply is handled. -/
def replyNotes (reply : Reply) (before after : Channel) : List Note :=
  .handled (.reply reply)
    :: ((cancelledBy reply before after).map (.cancelled before.nextId ·)).toList
    ++ stopNotes before after

lemma replyNotes_of_eq {reply : Reply} {before after : Channel}
    (hid : after.nextId = before.nextId) (hstop : after.isStopped = before.isStopped) :
    replyNotes reply before after = [.handled (.reply reply)] := by
  rw [replyNotes, cancelledBy_of_eq hid, stopNotes_of_eq hstop]
  rfl

lemma replyNotes_cancel {reply : Reply} {c : CallId} {frame : Option Frame} (before ch : Channel)
    (hid : ch.nextId = before.nextId) (hstop : ch.isStopped = before.isStopped)
    (hc : reply.call = some c) :
    replyNotes reply before (ch.cancel c frame)
      = .handled (.reply reply) :: .cancelled ch.nextId c :: stopNotes ch (ch.cancel c frame) := by
  simp only [replyNotes, cancelledBy_cancel hid hc, hid, stopNotes, hstop]
  rfl

/-- The parts of a channel that a new route leaves alone. -/
lemma openRoute_eq (call : Option CallId) (t : Ticket) (ch : Channel) :
    (openRoute call t ch).phase = ch.phase ∧ (openRoute call t ch).nextId = ch.nextId
      ∧ (openRoute call t ch).cancels = ch.cancels
      ∧ (openRoute call t ch).mailbox = ch.mailbox := by
  cases call <;> exact ⟨rfl, rfl, rfl, rfl⟩

lemma ledger_openRoute (id : RequestId) (w : Waiter) (reply : Reply) (ch : Channel) :
    (openRoute (opened? w reply) w.ticket { ch with pending := ch.pending.erase id }).ledger ρ
      = (ch.ledger ρ).resolving id w reply := by
  unfold Ledger.resolving
  cases opened? w reply <;> rfl

/-- A pending request has its reply. -/
lemma steps_resolve {id : RequestId} {w : Waiter} {reply : Reply} (frame : Option Frame)
    (ch : Channel) (h : ch.phase = .ready) (hid : reply.request = some id)
    (hw : ch.pending.find? id = some w) :
    (ch.ledger ρ).Steps τ (replyNotes reply ch (resolve id w reply frame ch))
      ((resolve id w reply frame ch).ledger ρ) := by
  have hledger := ledger_openRoute (ρ := ρ) id w reply ch
  obtain ⟨hphase, hnext, hcancels, hmail⟩ :=
    openRoute_eq (opened? w reply) w.ticket { ch with pending := ch.pending.erase id }
  dsimp only at hphase hnext hcancels
  change _ = ch.mailbox at hmail
  have hrun := isStopped_of_ready h
  unfold resolve
  dsimp only
  -- From here on only these parts of the new route matter, whether there is one or not.
  generalize openRoute (opened? w reply) w.ticket { ch with pending := ch.pending.erase id } = ch'
    at *
  have hready : ch'.phase = .ready := hphase.trans h
  have hstop : ch'.isStopped = ch.isStopped := by rw [isStopped_of_ready hready, hrun]
  split
  case isTrue hwaiting =>
    rw [replyNotes_of_eq (by rw [nextId_publish]; exact hnext)
        (by rw [isStopped_publish]; exact hstop),
      ledger_publish, answer, ledger_updateMailbox (.inl (mailbox_ne_left_of_waiting hwaiting)),
      hledger, hmail]
    rw [hmail] at hwaiting
    exact (Ledger.Step.answer hrun hid hw hwaiting).steps
  case isFalse hwaiting =>
    have hgone : (ch.mailbox w.ticket).waiting = false := by
      rw [← hmail]
      exact eq_false_of_ne_true hwaiting
    -- The caller has gone. A call that the reply opens is first in the queue of cancels.
    have hlate := (Ledger.Step.late (τ := τ) (l := ch.ledger ρ) hrun hid hw hgone).steps
    rw [← hledger] at hlate
    cases hcall : opened? w reply with
    | none =>
      rw [hcall] at hlate
      dsimp only
      rw [replyNotes_of_eq (by rw [nextId_publish]; exact hnext)
        (by rw [isStopped_publish]; exact hstop), ledger_publish]
      change (ch.ledger ρ).Steps τ _ { ch'.ledger ρ with cancels := ch.cancels } at hlate
      rwa [← hcancels] at hlate
    | some c =>
      rw [hcall] at hlate
      dsimp only
      rw [replyNotes_cancel ch ch' hnext hstop (call_of_opened hcall)]
      exact hlate.trans (steps_cancel c _ frame ch' hready hcancels)

/-- A reply that no caller waits for. -/
lemma steps_resolveLate (reply : Reply) (frame : Option Frame) (ch : Channel)
    (h : ch.phase = .ready) (hnone : ∀ id, reply.request = some id → ch.pending.find? id = none) :
    (ch.ledger ρ).Steps τ (replyNotes reply ch (resolveLate reply frame ch))
      ((resolveLate reply frame ch).ledger ρ) := by
  have hrun := isStopped_of_ready h
  have hpublish : ∀ ch' : Channel, ch'.nextId = ch.nextId → ch'.isStopped = ch.isStopped →
      replyNotes reply ch (publish frame ch') = [.handled (.reply reply)] := by
    intro ch' hnext hstop
    exact replyNotes_of_eq (by rw [nextId_publish, hnext]) (by rw [isStopped_publish, hstop])
  unfold resolveLate
  split
  case h_1 hreq =>
    rw [hpublish ch rfl rfl, ledger_publish]
    exact (Ledger.Step.pass hrun (by simp [hreq])).steps
  case h_2 id hreq =>
    split
    case isFalse hmem =>
      rw [hpublish ch rfl rfl, ledger_publish]
      refine (Ledger.Step.pass hrun ?_).steps
      intro id' hid'
      obtain rfl : id = id' := Option.some.inj (hreq.symm.trans hid')
      have hnot : id ∉ ch.abandoned := by simpa using hmem
      exact ⟨hnone id hreq, hnot⟩
    case isTrue hmem =>
      have hin : id ∈ ch.abandoned := by simpa using hmem
      -- The request has been swept, but its call is still to be cancelled.
      have hforgotten := (Ledger.Step.forgotten (τ := τ) (l := ch.ledger ρ) hrun hreq
        (hnone id hreq) hin).steps
      dsimp only
      split
      case h_1 c hrejection hcall =>
        rw [replyNotes_cancel (c := c) ch { ch with abandoned := ch.abandoned.filter (· ≠ id) } rfl
          rfl hcall]
        have haccepted : accepted reply = some c := by simp [accepted, hrejection, hcall]
        rw [haccepted] at hforgotten
        exact hforgotten.trans (steps_cancel c _ frame
          { ch with abandoned := ch.abandoned.filter (· ≠ id) } h rfl)
      case h_2 hother =>
        rw [hpublish { ch with abandoned := ch.abandoned.filter (· ≠ id) } rfl rfl, ledger_publish]
        have haccepted : accepted reply = none := by
          unfold accepted
          cases hrejection : reply.rejection with
          | none =>
            cases hcall : reply.call with
            | none => rfl
            | some c => exact absurd hcall (hother c hrejection)
          | some r => rfl
        rw [haccepted] at hforgotten
        exact hforgotten

/-- A reply is handled. -/
lemma steps_handleReply (reply : Reply) (frame : Option Frame) (ch : Channel)
    (h : ch.phase = .ready) :
    (ch.ledger ρ).Steps τ (replyNotes reply ch (handleReply reply frame ch))
      ((handleReply reply frame ch).ledger ρ) := by
  unfold handleReply
  dsimp only
  split
  case h_1 id w hfind =>
    obtain ⟨id', hid, hw⟩ := Option.bind_eq_some_iff.mp hfind
    obtain ⟨w', hw', heq⟩ := Option.map_eq_some_iff.mp hw
    obtain ⟨rfl, rfl⟩ := Prod.mk.inj heq
    exact steps_resolve frame
      { ch with traffic := ch.traffic.countReply reply.rejection.isSome } h hid hw'
  case h_2 hfind =>
    refine steps_resolveLate reply frame
      { ch with traffic := ch.traffic.countReply reply.rejection.isSome } h ?_
    intro id hid
    simpa [hid] using hfind

/-! ### Events -/

/-- An event is handled. -/
lemma step_handleEvent (u : Update) (ch : Channel) (h : ch.isStopped = false) :
    Ledger.Step τ (ch.ledger ρ) [.handled (.event u)] ((handleEvent u ch).ledger ρ) := by
  unfold handleEvent
  dsimp only
  split
  case h_1 hfind => exact .miss h hfind
  case h_2 t hfind =>
    split
    case isTrue hlistening =>
      rw [deliver, ledger_updateMailbox (.inl (mailbox_ne_left_of_listening hlistening))]
      exact .deliver h hfind hlistening
    case isFalse hlistening =>
      exact .unroute h hfind (eq_false_of_ne_true hlistening)

lemma isStopped_handleEvent (u : Update) (ch : Channel) :
    (handleEvent u ch).isStopped = ch.isStopped := by
  unfold handleEvent
  dsimp only
  split
  · rfl
  · split <;> rfl

/-! ### Tasks -/

/-- A text of the server is handled. -/
lemma steps_receive (text : String) (rest : List String) {ch : Channel} (h : ch.phase = .ready) :
    (ch.ledger ρ).Steps τ
      (ch.taskNotes (.receive text rest) ++ stopNotes ch (ch.perform (.receive text rest)))
      ((ch.perform (.receive text rest)).ledger ρ) := by
  have hrun := isStopped_of_ready h
  simp only [taskNotes, perform, receive]
  cases Frame.decode text with
  | reply r =>
    exact steps_handleReply r _
      { ch with inbound := rest, traffic := ch.traffic.countReceived } h
  | state s =>
    rw [stopNotes_of_eq (by rw [isStopped_publish]; rfl), ledger_publish]
    exact (Ledger.Step.other hrun (by simp) (by simp)).steps
  | event u =>
    rw [stopNotes_of_eq (by rw [isStopped_publish, isStopped_handleEvent]; rfl), ledger_publish]
    exact (step_handleEvent u
      { ch with inbound := rest, traffic := ch.traffic.countReceived } hrun).steps
  | unknown e =>
    rw [stopNotes_of_eq (by rw [isStopped_publish]; rfl), ledger_publish]
    exact (Ledger.Step.other hrun (by simp) (by simp)).steps

/-- The dispatcher does its next task. -/
theorem steps_perform {task : Task} {ch : Channel} (h : ch.task? = some task) :
    (ch.ledger ρ).Steps τ (ch.taskNotes task ++ stopNotes ch (ch.perform task))
      ((ch.perform task).ledger ρ) := by
  have hrun := isStopped_of_task h
  cases due_of_task h with
  | @write r frame hphase =>
    have hwrite := steps_write (ρ := ρ) (τ := τ) r frame ch hrun
    have hhand : ch.hand = [r] := by simp [hand, hphase]
    rwa [← hhand] at hwrite
  | @execute c rest hphase hcommands => cases c with
    | send request w => exact steps_send request w rest hphase hcommands
    | close => exact steps_stop hrun
  | unused | drained => exact steps_stop hrun
  | @cancel c rest hphase _ _ hcancels =>
    have hcancel := steps_cancel (ρ := ρ) (τ := τ) c rest none
      { ch with cancels := rest } hphase rfl
    change Ledger.Steps _ { ch.ledger ρ with cancels := c :: rest } _ _ at hcancel
    rwa [← hcancels] at hcancel
  | @receive text rest hhears => exact steps_receive text rest hhears.phase

end Channel

end GroundLink.Connection
