import GroundLink.Proofs.Connection.Fates
import GroundLink.Proofs.Connection.Overlaying

/-!
# Sweeps

The dispatcher forgets requests that nobody waits for whenever it sends another one. When it does so
makes no difference: two systems that have done the same, but for sweeps, differ in nothing but the
tables of requests, and go on alike. So a late reply has the same effect whether its request has
been swept or not.
-/

namespace GroundLink.Protocol.Frame

/-- The reply that a frame is. -/
def reply? : Frame → Option Reply
  | .reply r => some r
  | _ => none

lemma eq_of_reply? {f : Frame} {r : Reply} (hf : f.reply? = some r) : f = .reply r := by
  cases f with
  | reply r' =>
    obtain rfl := Option.some.inj hf
    rfl
  | _ => cases hf

end GroundLink.Protocol.Frame

namespace GroundLink.Connection

open Protocol

namespace Channel

/-! ### Other tables -/

/-- A channel whose dispatcher has other tables of requests. -/
def retracked (pending : Table RequestId Waiter) (abandoned : List RequestId) (ch : Channel) :
    Channel :=
  { ch with pending, abandoned }

variable {p : Table RequestId Waiter} {a : List RequestId} {ch : Channel}

@[simp] lemma untracked_retracked : (ch.retracked p a).untracked = ch.untracked := rfl

lemma exists_retracked {ch' : Channel} (h : ch'.untracked = ch.untracked) :
    ∃ p a, ch' = ch.retracked p a := by
  refine ⟨ch'.pending, ch'.abandoned, ?_⟩
  change { ch'.untracked with pending := ch'.pending, abandoned := ch'.abandoned } = _
  rw [h]
  rfl

lemma unnoticed_retracked : Unnoticed (retracked p a) where
  isStopped _ := rfl
  commandRoom _ := rfl
  commands _ := rfl
  line _ := rfl
  cancels _ := rfl
  mailboxes _ := rfl
  nextTicket _ := rfl
  map_commands _ _ := rfl
  map_line _ _ := rfl
  map_cancels _ _ := rfl
  map_mailboxes _ _ := rfl
  map_nextTicket _ _ := rfl

lemma task?_retracked : (ch.retracked p a).task? = ch.task? := rfl

/-- A task is done by the fates of the requests, and not by their tables. -/
lemma untracked_perform (hfate : (ch.retracked p a).fate = ch.fate) (task : Task) :
    ((ch.retracked p a).perform task).untracked = (ch.perform task).untracked := by
  cases task with
  | write r frame => rw [perform, perform, untracked_write, untracked_write]; rfl
  | execute c rest => cases c with
    | close => rfl
    | send request w => rw [perform, perform, execute, execute, untracked_send, untracked_send]; rfl
  | cancel c rest => rw [perform, perform, untracked_cancel, untracked_cancel]; rfl
  | stop => rfl
  | receive text rest =>
    rw [perform, perform, receive, receive]
    cases Frame.decode text with
    | reply r =>
      have hsame : (ch.retracked p a).fateOf r = ch.fateOf r := by rw [fateOf, hfate, fateOf]
      dsimp only
      rw [untracked_handleReply, untracked_handleReply]
      exact congrArg (fun f => respond f r _ _) hsame
    | state s =>
      dsimp only
      rw [untracked_publish, untracked_publish]
      rfl
    | event u =>
      dsimp only
      rw [untracked_publish, untracked_handleEvent, untracked_publish, untracked_handleEvent]
      rfl
    | unknown e =>
      dsimp only
      rw [untracked_publish, untracked_publish]
      rfl

/-- A request is written or waits for room, unless the dispatcher stops. -/
lemma write_cases (r : NumberedRequest) (frame : Option Frame) (ch : Channel) :
    write r frame ch = ch.stop ∨ (write r frame ch).routes = ch.routes
      ∧ (write r frame ch).written ++ (write r frame ch).hand = ch.written ++ [r] := by
  unfold write
  split
  · exact .inl rfl
  · split
    · cases frame <;> exact .inr ⟨rfl, List.append_nil _⟩
    · exact .inr ⟨rfl, rfl⟩

lemma taskNotes_retracked (hfate : (ch.retracked p a).fate = ch.fate) (task : Task) :
    (ch.retracked p a).taskNotes task = ch.taskNotes task := by
  have hnext : ((ch.retracked p a).perform task).untracked.nextId
      = (ch.perform task).untracked.nextId := by
    rw [untracked_perform hfate]
  have hcancelled : ∀ r, cancelledBy r (ch.retracked p a) ((ch.retracked p a).perform task)
      = cancelledBy r ch (ch.perform task) := by
    intro r
    change (if ((ch.retracked p a).perform task).untracked.nextId = ch.nextId then none else _) = _
    rw [hnext]
    rfl
  cases task with
  | receive text rest =>
    simp only [taskNotes, hcancelled]
    rfl
  | execute c rest => cases c <;> rfl
  | _ => rfl

lemma readFrame_retracked (listener : ListenerId) :
    (ch.retracked p a).readFrame listener
      = ((ch.readFrame listener).1, (ch.readFrame listener).2.retracked p a) := by
  have hfanout : (ch.retracked p a).fanout = ch.fanout := rfl
  unfold readFrame
  rw [hfanout]
  generalize ch.fanout.read listener = result
  obtain ⟨_ | _, fanout⟩ := result <;> rfl

lemma pollFrame_retracked (listener : ListenerId) :
    (ch.retracked p a).pollFrame listener
      = ((ch.pollFrame listener).1, (ch.pollFrame listener).2.retracked p a) := by
  rw [pollFrame, readFrame_retracked, pollFrame]
  obtain ⟨_ | f, ch'⟩ := ch.readFrame listener <;> rfl

lemma push_retracked (text : String) :
    (ch.retracked p a).push text = ((ch.push text).1, (ch.push text).2.retracked p a) := by
  unfold push
  change (if !ch.serverSpeaks then _ else if ch.isStopped then _
    else if ch.inbound.length < ch.textRoom then _ else _) = _
  split
  · rfl
  · split
    · rfl
    · split <;> rfl

lemma seekState_retracked (listener : ListenerId) (fuel : Nat) :
    (ch.retracked p a).seekState listener fuel
      = ((ch.seekState listener fuel).1, (ch.seekState listener fuel).2.retracked p a) := by
  induction fuel generalizing ch with
  | zero => rfl
  | succ fuel ih =>
    rw [seekState, readFrame_retracked, seekState]
    obtain ⟨_ | f, ch'⟩ := ch.readFrame listener
    · rfl
    · cases f with
      | state s => rfl
      | _ => exact ih

end Channel

open Channel

variable {p : Table RequestId Waiter} {a : List RequestId} {ch : Channel}

/-! ### Callers -/

namespace Operation

lemma pollState_retracked (s : Setting) (now : Nat) (listener : ListenerId) (deadline : Nat) :
    pollState s now listener deadline (ch.retracked p a)
      = ((pollState s now listener deadline ch).1,
        (pollState s now listener deadline ch).2.retracked p a) := by
  have hfanout : (ch.retracked p a).fanout = ch.fanout := rfl
  unfold pollState
  rw [hfanout, seekState_retracked]
  generalize ch.seekState listener (ch.fanout.recent.length + 1) = result
  obtain ⟨_ | state, ch'⟩ := result
  · dsimp only
    split <;> rfl
  · rfl

/-- Two results that differ in the tables at most. -/
def Alike {α : Type} (r r' : α × Channel) : Prop := r'.1 = r.1 ∧ r'.2.untracked = r.2.untracked

lemma Alike.of_retracked {α : Type} {r r' : α × Channel} (h : r' = (r.1, r.2.retracked p a)) :
    Alike r r' := by
  rw [h]
  exact ⟨rfl, rfl⟩

lemma pollStop_alike (now deadline : Nat) :
    Alike (pollStop now deadline ch) (pollStop now deadline (ch.retracked p a)) := by
  unfold pollStop
  change Alike _ (if ch.isStopped then _ else _)
  split
  · exact ⟨rfl, rfl⟩
  · split <;> exact ⟨rfl, rfl⟩

/-- An operation looks at the tables only for the request of its caller. -/
lemma poll_alike (s : Setting) (now : Nat) {op : Operation}
    (hpending : ∀ x, op.exchange? = some x →
      p.any (·.2.ticket = x.ticket) = ch.pending.any (·.2.ticket = x.ticket)) :
    Alike (op.poll s now ch) (op.poll s now (ch.retracked p a)) := by
  cases op with
  | refused request => exact ⟨rfl, rfl⟩
  | askState t listener =>
    simp only [poll]
    rw [unnoticed_retracked.enqueue]
    obtain ⟨q, ch'⟩ := ch.enqueue t (.send .state none)
    cases q with
    | queued => exact .of_retracked (pollState_retracked ..)
    | full => exact ⟨rfl, rfl⟩
    | closed => exact ⟨rfl, rfl⟩
  | awaitState listener deadline => exact .of_retracked (pollState_retracked ..)
  | close t =>
    simp only [poll]
    rw [unnoticed_retracked.enqueue]
    obtain ⟨q, ch'⟩ := ch.enqueue t .close
    cases q with
    | full => exact ⟨rfl, rfl⟩
    | _ => exact pollStop_alike ..
  | awaitStop deadline => exact pollStop_alike ..
  | _ =>
    refine .of_retracked (poll_unnoticed unnoticed_retracked ch s now rfl fun x hx ch' hch' => ?_)
    rw [hch']
    exact hpending x hx

lemma pollNotes_retracked (t : Ticket) (s : Setting) (now : Nat) {op : Operation}
    (hpoll : Alike (op.poll s now ch) (op.poll s now (ch.retracked p a))) :
    op.pollNotes t s now (ch.retracked p a) = op.pollNotes t s now ch := by
  simp only [pollNotes, hpoll.1, Exchange.queueNotes_unnoticed unnoticed_retracked]

lemma abandon_retracked (op : Operation) :
    op.abandon (ch.retracked p a) = (op.abandon ch).retracked p a := by
  cases op with
  | fetch plan sub due => exact abandon_unnoticed unnoticed_retracked ch rfl
  | _ => rfl

end Operation

namespace System

/-! ### Acts -/

/-- A system whose dispatcher tracks no requests. -/
def untracked (s : System) : System := { s with channel := s.channel.untracked }

variable {s : System}

/-- A system whose dispatcher has other tables of requests. -/
def retracked (p : Table RequestId Waiter) (a : List RequestId) (s : System) : System :=
  { s with channel := s.channel.retracked p a }

lemma untracked_dropUnused (s : System) : s.dropUnused.untracked = s.untracked.dropUnused :=
  apply_ite untracked ..

lemma untracked_put (t : Ticket) (q : Option Party) (s : System) :
    (s.put t q).untracked = s.untracked.put t q := rfl

lemma untracked_launch {start : Channel → Operation × Channel}
    (hstart : start (s.channel.retracked p a)
      = ((start s.channel).1, (start s.channel).2.retracked p a)) :
    ((s.retracked p a).launch start).untracked = (s.launch start).untracked := by
  have hconnected : (s.retracked p a).connected = s.connected := rfl
  have hchannel : (s.retracked p a).channel = s.channel.retracked p a := rfl
  unfold launch
  rw [hconnected, hchannel, hstart]
  split
  · generalize start s.channel = result
    obtain ⟨op, ch'⟩ := result
    cases op <;> rfl
  · rfl

lemma untracked_close : (s.retracked p a).close.untracked = s.close.untracked := by
  unfold close
  change untracked (if s.isBusy then _ else _) = _
  split
  · rfl
  · have hlaunch : ((s.retracked p a).launch Operation.startClose).untracked
        = (s.launch Operation.startClose).untracked := untracked_launch rfl
    exact congrArg (fun s : System => { s with connected := false }) hlaunch

lemma untracked_abandon (t : Ticket) :
    ((s.retracked p a).abandon t).untracked = (s.abandon t).untracked := by
  have hparties : (s.retracked p a).parties = s.parties := rfl
  unfold abandon
  rw [hparties]
  split
  case h_1 op hparty =>
    rw [untracked_dropUnused, untracked_dropUnused, untracked_put, untracked_put]
    rw [show (s.retracked p a).channel = s.channel.retracked p a from rfl,
      Operation.abandon_retracked]
    rfl
  case h_2 => rfl

lemma untracked_release (t : Ticket) :
    ((s.retracked p a).release t).untracked = (s.release t).untracked := by
  have hparties : (s.retracked p a).parties = s.parties := rfl
  unfold release
  rw [hparties]
  split
  case h_3 q hcalling hparty =>
    rw [untracked_put, untracked_put]
    rw [show (s.retracked p a).channel = s.channel.retracked p a from rfl,
      q.release_unnoticed unnoticed_retracked]
    rfl
  all_goals rfl

/-- What parties and the dispatcher look for in the tables is the same in other tables. -/
structure Agrees (p : Table RequestId Waiter) (a : List RequestId) (s : System) : Prop where
  caller : ∀ t op x, s.parties.find? t = some (.calling op) → op.exchange? = some x →
    p.any (·.2.ticket = x.ticket) = s.channel.pending.any (·.2.ticket = x.ticket)
  consumer : ∀ t q sub, s.parties.find? t = some q → q.role = .consumer sub →
    (s.channel.retracked p a).mayDeliver sub.ticket = s.channel.mayDeliver sub.ticket
  dispatcher : s.channel.isStopped = false → (s.channel.retracked p a).fate = s.channel.fate

lemma Agrees.look (h : s.Agrees p a) (t : Ticket) :
    (s.retracked p a).doings (.look t) = s.doings (.look t)
      ∧ ((s.retracked p a).look t).untracked = (s.look t).untracked := by
  have hparties : (s.retracked p a).parties = s.parties := rfl
  simp only [doings, System.look, hparties]
  cases hparty : s.parties.find? t with
  | none => exact ⟨rfl, rfl⟩
  | some q => cases q with
    | calling op =>
      have hpoll := op.poll_alike (a := a) s.setting s.now (h.caller t op · hparty)
      refine ⟨op.pollNotes_retracked t s.setting s.now hpoll, ?_⟩
      dsimp only
      rw [show (s.retracked p a).setting = s.setting from rfl,
        show (s.retracked p a).now = s.now from rfl,
        show (s.retracked p a).channel = s.channel.retracked p a from rfl]
      generalize op.poll s.setting s.now s.channel = result at hpoll ⊢
      generalize op.poll s.setting s.now (s.channel.retracked p a) = result' at hpoll ⊢
      obtain ⟨found, ch⟩ := result
      obtain ⟨found', ch'⟩ := result'
      obtain ⟨hfound, hch⟩ := hpoll
      obtain rfl : found' = found := hfound
      have hsame : untracked { s with channel := ch' } = untracked { s with channel := ch } :=
        congrArg (fun ch : Channel => { s with channel := ch }) hch
      cases found' with
      | pending op => exact congrArg (put t (some (.calling op))) hsame
      | ready result =>
        dsimp only
        rw [untracked_dropUnused, untracked_dropUnused, untracked_put, untracked_put]
        exact congrArg (fun s => (put t (Party.keeping result) s).dropUnused) hsame
    | holding sub => exact ⟨rfl, rfl⟩
    | streaming st => exact ⟨rfl, rfl⟩

lemma Agrees.read (h : s.Agrees p a) (t : Ticket) :
    (s.retracked p a).doings (.read t) = s.doings (.read t)
      ∧ ((s.retracked p a).read t).untracked = (s.read t).untracked := by
  have hparties : (s.retracked p a).parties = s.parties := rfl
  simp only [doings, System.read, hparties]
  cases hparty : s.parties.find? t with
  | none => exact ⟨rfl, rfl⟩
  | some q => cases q with
    | calling op => exact ⟨rfl, rfl⟩
    | holding sub =>
      have hpoll := sub.poll_unnoticed unnoticed_retracked (h.consumer t _ sub hparty rfl)
      simp only [Party.read]
      rw [show (s.retracked p a).channel = s.channel.retracked p a from rfl, hpoll]
      exact ⟨rfl, rfl⟩
    | streaming st =>
      have hmay : ∀ ch' : Channel, ch'.pending = s.channel.pending → ch'.routes = s.channel.routes →
          ch'.commands = s.channel.commands →
          (ch'.retracked p a).mayDeliver st.subscription.ticket
            = ch'.mayDeliver st.subscription.ticket := by
        intro ch' hpending hroutes hcommands
        change (ch'.commands.any _ || p.any _ || ch'.routes.any _) = _
        rw [mayDeliver, hpending, hroutes, hcommands]
        exact h.consumer t _ st.subscription hparty rfl
      have hpoll := st.poll_unnoticed unnoticed_retracked hmay
      simp only [Party.read]
      rw [show (s.retracked p a).channel = s.channel.retracked p a from rfl, hpoll]
      exact ⟨rfl, rfl⟩

lemma Agrees.dispatch (h : s.Agrees p a) :
    (s.retracked p a).doings .dispatch = s.doings .dispatch
      ∧ ((s.retracked p a).act .dispatch).untracked = (s.act .dispatch).untracked := by
  simp only [doings, System.act, Channel.step?_eq]
  have htask : (s.retracked p a).channel.task? = s.channel.task? := task?_retracked
  rw [htask]
  cases hnext : s.channel.task? with
  | none => exact ⟨rfl, rfl⟩
  | some task =>
    have hfate := h.dispatcher (isStopped_of_task hnext)
    refine ⟨taskNotes_retracked hfate task, ?_⟩
    exact congrArg (fun ch => { s with channel := ch }) (untracked_perform hfate task)

lemma Agrees.act (h : s.Agrees p a) (act : Act) :
    (s.retracked p a).notes act = s.notes act
      ∧ ((s.retracked p a).act act).untracked = (s.act act).untracked := by
  have hall : (s.retracked p a).doings act = s.doings act
      ∧ ((s.retracked p a).act act).untracked = (s.act act).untracked := by
    cases act with
    | look t => exact h.look t
    | read t => exact h.read t
    | dispatch => exact h.dispatch
    | send request | askState => exact ⟨rfl, untracked_launch rfl⟩
    | subscribe request =>
      exact ⟨rfl,
        untracked_launch (Operation.startSubscribe_unnoticed unnoticed_retracked _ request)⟩
    | stream plan =>
      exact ⟨rfl, untracked_launch (Operation.startStream_unnoticed unnoticed_retracked _ _ plan)⟩
    | close => exact ⟨rfl, untracked_close ..⟩
    | abandon t => exact ⟨rfl, untracked_abandon ..⟩
    | release t => exact ⟨rfl, untracked_release ..⟩
    | listen =>
      refine ⟨rfl, ?_⟩
      change untracked (if s.connected then _ else _) = untracked (if s.connected then _ else _)
      split <;> rfl
    | hear l =>
      refine ⟨rfl, ?_⟩
      change untracked (if l ∈ s.listeners then
        { s with channel := ((s.channel.retracked p a).pollFrame l).2 } else s.retracked p a)
        = untracked (if l ∈ s.listeners then { s with channel := (s.channel.pollFrame l).2 } else s)
      rw [pollFrame_retracked]
      split <;> rfl
    | leave l =>
      refine ⟨rfl, ?_⟩
      change untracked (if l ∈ s.listeners then _ else _)
        = untracked (if l ∈ s.listeners then _ else _)
      split <;> rfl
    | disconnect =>
      refine ⟨rfl, ?_⟩
      simp only [System.act, untracked_dropUnused]
      rfl
    | push text =>
      refine ⟨rfl, ?_⟩
      simp only [System.act]
      rw [show (s.retracked p a).channel = s.channel.retracked p a from rfl, push_retracked]
      rfl
    | hangUp | cutWriter | take | advance | archive => exact ⟨rfl, rfl⟩
  refine ⟨?_, hall.2⟩
  have hstopped : ((s.retracked p a).act act).channel.isStopped
      = (s.act act).channel.isStopped := by
    have hsame := congrArg (fun s : System => s.channel.isStopped) hall.2
    exact hsame
  rw [notes, hall.1, notes, Channel.stopNotes, Channel.stopNotes, hstopped]
  rfl

/-! ### Two systems -/

variable {τ : Nat} {h : List Note}

/-- Two systems that have done the same have the same requests in their tables, as far as somebody
looks for them. -/
lemma agrees_of_steps (hs : Ledger.start.Steps τ h s.ledger)
    (hs' : Ledger.start.Steps τ h (s.retracked p a).ledger) (hfits : s.Fits)
    (hlen : (numbered h).length ≤ UInt64.size) : s.Agrees p a := by
  have hc := correlated_of_steps hs hlen
  have hc' := correlated_of_steps hs' hlen
  exact {
    caller := by
      intro t op x hparty hx
      have hrole : s.ledger.role t = .caller x := by
        refine (role_of_party hparty).trans ?_
        cases op <;> cases hx <;> rfl
      have ha := hc.caller t x hrole
      rw [ha.ticket]
      cases hstop : s.channel.isStopped with
      | true =>
        have hnone : s.channel.pending = [] := (Ledger.empty_of_steps hs hstop).pending
        have hnone' : p = [] := (Ledger.empty_of_steps hs' hstop).pending
        rw [hnone, hnone']
      | false =>
        have hiff := any_pending_of_waiting hc hstop ha.waiting
        have hiff' := any_pending_of_waiting hc' hstop ha.waiting
        exact Bool.eq_iff_iff.mpr (hiff'.trans hiff.symm)
    consumer := by
      intro t q sub hparty hrole
      have hrole' : s.ledger.role t = .consumer sub := (role_of_party hparty).trans hrole
      have hanswer := answered_of_steps hs hlen hrole'
      have hnone : s.channel.pending.any (fun p => p.2.ticket = t && p.2.routed) = false :=
        not_any_pending_of_answered hc hanswer
      have hnone' : p.any (fun p => p.2.ticket = t && p.2.routed) = false :=
        not_any_pending_of_answered hc' hanswer
      rw [Party.ticket_of_fits (hfits t q hparty) hrole]
      change (_ || p.any _ || _) = (_ || s.channel.pending.any _ || _)
      rw [hnone, hnone']
      rfl
    dispatcher := by
      intro hrun
      funext id
      exact fate_congr hc hc' hrun hrun rfl id }

/-- Two systems that have done the same, and differ in the tables of the dispatcher at most. -/
structure Twins (τ : Nat) (h : List Note) (s s' : System) : Prop where
  same : s'.untracked = s.untracked
  steps : Ledger.start.Steps τ h s.ledger
  steps' : Ledger.start.Steps τ h s'.ledger
  fits : s.Fits
  timeout : s.timeout = τ

lemma exists_retracked {s' : System} (h : s'.untracked = s.untracked) :
    ∃ p a, s' = s.retracked p a := by
  have hchannel := congrArg System.channel h
  obtain ⟨p, a, hch⟩ := Channel.exists_retracked hchannel
  refine ⟨p, a, ?_⟩
  change { s'.untracked with channel := s'.channel } = _
  rw [h, hch]
  rfl

variable {s' : System}

/-- Whatever is done next, they do the same again. -/
theorem Twins.act (ht : Twins τ h s s') (hlen : (numbered h).length ≤ UInt64.size) (act : Act) :
    s'.notes act = s.notes act ∧ Twins τ (h ++ s.notes act) (s.act act) (s'.act act) := by
  obtain ⟨hsame, hsteps, hsteps', hfits, htimeout⟩ := ht
  obtain ⟨p, a, rfl⟩ := exists_retracked hsame
  obtain ⟨hnotes, hafter⟩ := (agrees_of_steps hsteps hsteps' hfits hlen).act act
  have htakes := takes_act act hfits
  have htakes' := takes_act (s := s.retracked p a) act hfits
  refine ⟨hnotes, hafter, ?_, ?_, htakes.fits, ?_⟩
  · subst htimeout
    exact hsteps.trans htakes.steps
  · subst htimeout
    rw [← hnotes]
    exact hsteps'.trans htakes'.steps
  · rw [← htimeout]
    exact congrArg (·.replyTimeout.nanos) htakes.config

/-- The dispatcher forgets what nobody waits for. -/
def swept (s : System) : System := { s with channel := s.channel.sweep }

lemma Twins.sweep (ht : Twins τ h s s') : Twins τ h s s'.swept := by
  refine ⟨ht.same, ht.steps, ?_, ht.fits, ht.timeout⟩
  cases hstop : s'.channel.isStopped with
  | false =>
    rw [← List.append_nil h]
    exact ht.steps'.trans (Ledger.Step.sweep hstop).steps
  | true =>
    -- A dispatcher that has stopped has nothing to forget.
    obtain ⟨-, -, hpending, habandoned, -⟩ := Ledger.empty_of_steps ht.steps' hstop
    change s'.channel.pending = [] at hpending
    change s'.channel.abandoned = [] at habandoned
    have hsame : s'.channel.sweep = s'.channel := by
      change s'.channel.sweep
        = s'.channel.retracked s'.channel.pending s'.channel.abandoned
      rw [Channel.sweep, hpending, habandoned]
      rfl
    rw [swept, hsame]
    exact ht.steps'

/-! ### Late replies -/

end System

namespace Channel

/-- A channel whose dispatcher has taken a reply out of the queue and counted it. -/
def counted (r : Reply) (rest : List String) (ch : Channel) : Channel :=
  { ch.untracked with
    inbound := rest
    traffic := ch.traffic.countReceived.countReply r.rejection.isSome }

/-- What the listeners get of a reply. -/
def copyOf (r : Reply) (ch : Channel) : Option Frame :=
  if ch.fanout.isHeard then some (.reply r) else none

lemma nextId_cancel (c : CallId) (frame : Option Frame) (ch : Channel) :
    (cancel c frame ch).nextId = ch.nextId.next := by
  rw [cancel, nextId_write]

/-- A call that is cancelled has no route any more. -/
lemma routes_cancel (c : CallId) (frame : Option Frame) (ch : Channel) :
    (cancel c frame ch).routes.find? c = none := by
  rcases write_cases ⟨ch.nextId, .cancel c⟩ frame
    { ch with nextId := ch.nextId.next, routes := ch.routes.erase c } with hstop | ⟨hroutes, -⟩
  · rw [cancel, hstop]
    rfl
  · rw [cancel, hroutes]
    exact Table.find?_erase_self ..

lemma written_cancel {c : CallId} {frame : Option Frame} {ch : Channel}
    (hrun : (cancel c frame ch).isStopped = false) :
    (cancel c frame ch).written ++ (cancel c frame ch).hand
      = ch.written ++ [⟨ch.nextId, .cancel c⟩] := by
  rcases write_cases ⟨ch.nextId, .cancel c⟩ frame
    { ch with nextId := ch.nextId.next, routes := ch.routes.erase c } with hstop | ⟨-, hwritten⟩
  · rw [cancel, hstop] at hrun
    cases hrun
  · exact hwritten

/-- A reply is counted, comes to its fate, and is sent to the listeners. -/
lemma untracked_perform_reply (ch : Channel) {text : String} {r : Reply} (rest : List String)
    (htext : Frame.decode text = .reply r) :
    (ch.perform (.receive text rest)).untracked
      = respond (ch.fateOf r) r (ch.copyOf r) (ch.counted r rest) := by
  rw [perform, receive, htext]
  dsimp only
  rw [untracked_handleReply]
  rfl

end Channel

namespace System

variable {s s' : System} {τ : Nat} {h : List Note}

/-- The dispatcher takes a reply, and cancels a call or does nothing else. -/
structure Late (s : System) (r : Reply) (rest : List String) (call : Option CallId) : Prop where
  notes : s.doings .dispatch
    = .handled (.reply r) :: (call.map (.cancelled s.channel.nextId ·)).toList
  cancel : ∀ c, call = some c → (s.act .dispatch).channel.routes.find? c = none
    ∧ ((s.act .dispatch).channel.isStopped = false →
      (s.act .dispatch).channel.written ++ (s.act .dispatch).channel.hand
        = s.channel.written ++ [⟨s.channel.nextId, .cancel c⟩])
  nothing : call = none → (s.act .dispatch).channel.untracked
    = publish (s.channel.copyOf r) (s.channel.counted r rest)

section

variable {r : Reply} {rest : List String}

lemma late_of_publish
    (hdoings : s.doings .dispatch = .handled (.reply r) :: ((cancelledBy r s.channel
      (s.act .dispatch).channel).map (.cancelled s.channel.nextId ·)).toList)
    (hafter : (s.act .dispatch).channel.untracked
      = publish (s.channel.copyOf r) (s.channel.counted r rest)) : s.Late r rest none where
  notes := by
    have hnext : (s.act .dispatch).channel.untracked.nextId = s.channel.nextId := by
      rw [hafter, nextId_publish]
      rfl
    have hnone : cancelledBy r s.channel (s.act .dispatch).channel = none := cancelledBy_of_eq hnext
    rw [hdoings, hnone]
  cancel := by rintro c ⟨⟩
  nothing := fun _ => hafter

lemma late_of_cancel {c : CallId} (hcall : r.call = some c)
    (hdoings : s.doings .dispatch = .handled (.reply r) :: ((cancelledBy r s.channel
      (s.act .dispatch).channel).map (.cancelled s.channel.nextId ·)).toList)
    (hafter : (s.act .dispatch).channel.untracked
      = cancel c (s.channel.copyOf r) (s.channel.counted r rest)) : s.Late r rest (some c) where
  notes := by
    have hnext : (s.act .dispatch).channel.untracked.nextId = s.channel.nextId.next := by
      rw [hafter, nextId_cancel]
      rfl
    have hcancelled : cancelledBy r s.channel (s.act .dispatch).channel = some c := by
      rw [cancelledBy, if_neg, hcall]
      intro heq
      exact nextId_ne _ (hnext.symm.trans heq)
    rw [hdoings, hcancelled]
  cancel := by
    rintro _ ⟨⟩
    constructor
    · change (s.act .dispatch).channel.untracked.routes.find? c = none
      rw [hafter]
      exact routes_cancel ..
    · intro hrun
      change (s.act .dispatch).channel.untracked.isStopped = false at hrun
      change (s.act .dispatch).channel.untracked.written ++ (s.act .dispatch).channel.untracked.hand
        = _
      rw [hafter] at hrun ⊢
      exact written_cancel hrun
  nothing := by rintro ⟨⟩

/-- A reply for a caller who has left is taken alike whichever table its request is in. -/
lemma late_of_left (hs : Ledger.start.Steps τ h s.ledger)
    (hlen : (numbered h).length ≤ UInt64.size) {t : Ticket} {id : RequestId} {text : String}
    (hnumber : (story t h).number = some id) (hgone : (s.channel.mailbox t).waiting = false)
    (htask : s.channel.task? = some (.receive text rest)) (htext : Frame.decode text = .reply r)
    (hid : r.request = some id) :
    s.Late r rest (if (story t h).answer = none ∧ (story t h).routed = true then accepted r
      else none) := by
  have hfate : s.channel.fateOf r
      = if (story t h).answer = none ∧ (story t h).routed = true then .cancels else .nothing := by
    rw [fateOf, hid]
    exact fate_of_left (correlated_of_steps hs hlen) (isStopped_of_task htask) hnumber hgone
  have hact : (s.act .dispatch).channel = s.channel.perform (.receive text rest) := by
    simp only [System.act, Channel.step?_eq, htask]
    rfl
  have hdoings : s.doings .dispatch = .handled (.reply r) :: ((cancelledBy r s.channel
      (s.act .dispatch).channel).map (.cancelled s.channel.nextId ·)).toList := by
    simp only [doings, htask, taskNotes, htext, hact]
  have hafter := untracked_perform_reply s.channel rest htext
  rw [← hact, hfate] at hafter
  split
  case isFalse hclosed =>
    rw [if_neg hclosed] at hafter
    exact late_of_publish hdoings hafter
  case isTrue hopen =>
    rw [if_pos hopen, respond] at hafter
    cases haccepted : accepted r with
    | none =>
      rw [haccepted] at hafter
      exact late_of_publish hdoings hafter
    | some c =>
      rw [haccepted] at hafter
      refine late_of_cancel ?_ hdoings hafter
      unfold accepted at haccepted
      split at haccepted
      · exact haccepted
      · cases haccepted

end

/-! ### Sweeps between acts -/

/-- An act, or a sweep that nothing has asked for. -/
inductive Move where
  | act (a : Act)
  | sweep

def Move.act? : Move → Option Act
  | .act a => some a
  | .sweep => none

/-- The acts without the sweeps. -/
def acts (moves : List Move) : List Act := moves.filterMap Move.act?

/-- Does some acts one after another, with sweeps between them. -/
def playSweeping : List Move → System → System
  | [], s => s
  | .act a :: moves, s => playSweeping moves (s.act a)
  | .sweep :: moves, s => playSweeping moves s.swept

def logSweeping : List Move → System → List Note
  | [], _ => []
  | .act a :: moves, s => s.notes a ++ logSweeping moves (s.act a)
  | .sweep :: moves, s => logSweeping moves s.swept

/-- Sweeps between acts change neither what is noted nor what there is, but for the tables. -/
theorem Twins.play (ht : Twins τ h s s') (moves : List Move)
    (hlen : (numbered (h ++ s.log (acts moves))).length ≤ UInt64.size) :
    s'.logSweeping moves = s.log (acts moves)
      ∧ Twins τ (h ++ s.log (acts moves)) (s.play (acts moves)) (s'.playSweeping moves) := by
  induction moves generalizing h s s' with
  | nil =>
    refine ⟨rfl, ?_⟩
    rw [acts, List.filterMap_nil, log, List.append_nil]
    exact ht
  | cons move moves ih => cases move with
    | sweep => exact ih ht.sweep hlen
    | act a =>
      change (numbered (h ++ (s.notes a ++ (s.act a).log (acts moves)))).length ≤ _ at hlen
      rw [← List.append_assoc] at hlen
      have hbefore := numbered_length_of_append (numbered_length_of_append hlen)
      obtain ⟨hnotes, hafter⟩ := ht.act hbefore a
      obtain ⟨hlog, htwins⟩ := ih hafter hlen
      rw [List.append_assoc] at htwins
      refine ⟨?_, htwins⟩
      rw [logSweeping, hnotes, hlog]
      rfl

end System

/-- Sweeps between acts, however many, are not seen: the same requests are numbered and written, the
same results are handed out, the same events are queued and read, and the same calls have routes. A
late reply cancels the call of a subscription if it is the first one to the request, and does
nothing otherwise, whether the request has been swept or not. -/
theorem Run.sweeps_unseen {setting : Setting} {textRoom : Nat} {h : List Note} {s : System}
    (hrun : Run setting textRoom h s) (moves : List System.Move)
    (hlen : (numbered (h ++ s.log (System.acts moves))).length ≤ UInt64.size) :
    s.logSweeping moves = s.log (System.acts moves)
      ∧ (s.playSweeping moves).untracked = (s.play (System.acts moves)).untracked
      ∧ ∀ t id text rest r, (story t (h ++ s.log (System.acts moves))).number = some id →
        ((s.play (System.acts moves)).channel.mailbox t).waiting = false →
        (s.play (System.acts moves)).channel.task? = some (.receive text rest) →
        Frame.decode text = .reply r → r.request = some id →
        let call := if (story t (h ++ s.log (System.acts moves))).answer = none
            ∧ (story t (h ++ s.log (System.acts moves))).routed = true then accepted r else none
        (s.play (System.acts moves)).Late r rest call
          ∧ (s.playSweeping moves).Late r rest call := by
  obtain ⟨hsteps, hfits, hconfig⟩ := hrun.steps
  have htimeout : s.timeout = setting.config.replyTimeout.nanos := by
    rw [System.timeout, hconfig]
  have htwins : System.Twins setting.config.replyTimeout.nanos h s s :=
    ⟨rfl, hsteps, hsteps, hfits, htimeout⟩
  obtain ⟨hlog, hafter⟩ := htwins.play moves hlen
  refine ⟨hlog, hafter.same, ?_⟩
  intro t id text rest r hnumber hgone htask htext hid
  refine ⟨System.late_of_left hafter.steps hlen hnumber hgone htask htext hid, ?_⟩
  obtain ⟨p, a, heq⟩ := System.exists_retracked hafter.same
  have hsteps' := hafter.steps'
  rw [heq] at hsteps' ⊢
  exact System.late_of_left hsteps' hlen hnumber hgone htask htext hid

namespace System

/-- A request for a subscription that its caller gives up. -/
def givenUp : List Act :=
  [.subscribe (.time "simulator" "realtime"), .look ⟨0⟩, .dispatch, .abandon ⟨0⟩]

/-- The request is swept before the reply comes. -/
def sweptLate : List Move := [.sweep, .act (.push (openingText 1 5))]

end System

/-- The call of the request in `givenUp` is cancelled whether the request is swept or not. -/
theorem Run.sweeps_unseen_givenUp :
    (numbered (System.plain.log System.givenUp ++ (System.plain.play System.givenUp).log
        (System.acts System.sweptLate))).length ≤ UInt64.size
      ∧ (System.plain.play System.givenUp).channel.pending.map (·.1) = [⟨1⟩]
      ∧ ((System.plain.play System.givenUp).playSweeping System.sweptLate).channel.abandoned = [⟨1⟩]
      ∧ ((System.plain.play System.givenUp).play (System.acts System.sweptLate)).Late
        ⟨some ⟨5⟩, some ⟨1⟩, none⟩ [] (some ⟨5⟩)
      ∧ ((System.plain.play System.givenUp).playSweeping System.sweptLate).Late
        ⟨some ⟨5⟩, some ⟨1⟩, none⟩ [] (some ⟨5⟩) := by
  have hlen : (numbered (System.plain.log System.givenUp ++ (System.plain.play System.givenUp).log
      (System.acts System.sweptLate))).length ≤ UInt64.size := by
    decide +kernel
  have hlate := ((Run.plain System.givenUp).sweeps_unseen System.sweptLate hlen).2.2 ⟨0⟩ ⟨1⟩
    (System.openingText 1 5) [] ⟨some ⟨5⟩, some ⟨1⟩, none⟩ (by decide +kernel) (by decide +kernel)
    rfl (Frame.eq_of_reply? (by decide +kernel)) rfl
  refine ⟨hlen, by decide +kernel, by decide +kernel, hlate⟩

end GroundLink.Connection
