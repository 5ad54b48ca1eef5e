import GroundLink.Proofs.Connection.Serving
import Mathlib.Algebra.Order.BigOperators.Group.List

/-!
# What is left to do

The dispatcher does one thing for each command, cancel and text that is queued, and may have to wait
for room before it goes on. So it has to wait for others in the end, however much is queued: a run
of the dispatcher, which takes a bounded number of steps, always leads there.

Callers may queue more. What an operation may still bring is bounded as well: its request, and a
cancel of the call that it opens. Whoever is looked after or lets go brings no more than that.
-/

namespace GroundLink.Connection

open Protocol

variable {ch ch' : Channel}

namespace Channel

/-! ### The load of the dispatcher -/

/-- How much is queued for the dispatcher. -/
def queued (ch : Channel) : Nat := ch.commands.length + ch.cancels.length + ch.inbound.length

/-- A bound on the steps until the dispatcher has to wait: whatever is queued is taken with one and
may be written with another, and it may come to stop. -/
def load (ch : Channel) : Nat :=
  match ch.phase with
  | .ready => 2 * ch.queued + 1
  | .writing .. => 2 * ch.queued + 2
  | .stopped => 0

lemma load_of_stopped (h : ch.isStopped = true) : ch.load = 0 := by
  rw [isStopped] at h
  rw [load]
  cases hphase : ch.phase with
  | stopped => rfl
  | _ =>
    rw [hphase] at h
    cases h

lemma isStopped_of_load (h : ch.load = 0) : ch.isStopped = true := by
  rw [load] at h
  rw [isStopped]
  cases hphase : ch.phase with
  | stopped => rfl
  | _ =>
    rw [hphase] at h
    cases h

lemma load_le (ch : Channel) : ch.load ≤ 2 * ch.queued + 2 := by
  rw [load]
  split <;> omega

lemma load_of_ready (h : ch.phase = .ready) : ch.load = 2 * ch.queued + 1 := by
  rw [load, h]

lemma load_le_work (ch : Channel) : ch.load ≤ ch.work := ch.load_le

/-- What is added to the queues is what is to be done besides. -/
lemma load_of_queued {n : Nat} (hphase : ch'.phase = ch.phase)
    (hqueued : ch'.queued = ch.queued + n) : ch'.load ≤ ch.load + 2 * n := by
  rw [load, load, hphase, hqueued]
  split <;> omega

/-! ### Steps -/

/-- A request that has found room is written, or the dispatcher stops. -/
lemma phase_write (r : NumberedRequest) (frame : Option Frame)
    (hroom : (ch.serverReads && ch.textRoom ≤ ch.backlog.length) = false) :
    (ch.write r frame).isStopped = true ∨ (ch.write r frame).phase = .ready := by
  rw [write]
  split
  case isTrue => exact .inl rfl
  case isFalse hreads =>
    have hreads' : ch.serverReads = true := by simpa using hreads
    have hspace : ch.backlog.length < ch.textRoom := by simpa [hreads'] using hroom
    rw [if_pos hspace]
    cases frame <;> exact .inr rfl

/-- Every task leaves less to do. -/
theorem load_perform {task : Task} (htask : ch.task? = some task) :
    (ch.perform task).load < ch.load := by
  obtain ⟨-, commands, cancels, inbound, hcommands, hcancels, hinbound, -, hqueues⟩ :=
    serves_perform htask
  have hpos : 0 < ch.load := by
    rw [Nat.pos_iff_ne_zero]
    intro hzero
    cases (isStopped_of_task htask).symm.trans (isStopped_of_load hzero)
  rcases hqueues with hstop | ⟨hcommands', hcancels', hinbound'⟩
  · rwa [load_of_stopped hstop]
  · have hqueued : ch.queued = (ch.perform task).queued + (task.command?.toList.length
        + task.call?.toList.length + task.text?.toList.length) := by
      simp only [queued, hcommands, hcancels, hinbound, hcommands', hcancels', hinbound',
        List.length_append]
      omega
    have hle := (ch.perform task).load_le
    cases due_of_task htask with
    | @write r frame hphase hroom =>
      rcases phase_write r frame hroom with hstop | hready
      · exact (load_of_stopped hstop).trans_lt hpos
      · have hload : ch.load = 2 * ch.queued + 2 := by rw [load, hphase]
        have hload' : (ch.perform (.write r frame)).load = _ := load_of_ready hready
        rw [hload', hload, hqueued]
        exact Nat.lt_succ_self _
    | execute hphase | cancel hphase =>
      rw [load_of_ready hphase, hqueued]
      exact hle.trans_lt (Nat.lt_succ_self _)
    | receive hhears =>
      rw [load_of_ready hhears.phase, hqueued]
      exact hle.trans_lt (Nat.lt_succ_self _)
    | unused | drained => exact (load_of_stopped rfl).trans_lt hpos

lemma load_step (h : ch.step? = some ch') : ch'.load < ch.load := by
  rw [step?_eq, Option.map_eq_some_iff] at h
  obtain ⟨task, htask, rfl⟩ := h
  exact load_perform htask

/-! ### Runs of the dispatcher -/

lemma runFor_of_waiting (h : ch.step? = none) (fuel : Nat) : runFor fuel ch = ch := by
  cases fuel with
  | zero => rfl
  | succ fuel => rw [runFor, h]

lemma step?_runFor {fuel : Nat} (h : ch.load ≤ fuel) : (runFor fuel ch).step? = none := by
  induction fuel generalizing ch with
  | zero =>
    have hstop := isStopped_of_load (Nat.le_zero.mp h)
    rw [runFor, step?_eq]
    cases htask : ch.task? with
    | none => rfl
    | some task => cases (isStopped_of_task htask).symm.trans hstop
  | succ fuel ih =>
    rw [runFor]
    cases hstep : ch.step? with
    | none => exact hstep
    | some ch' => exact ih (Nat.le_of_lt_succ ((load_step hstep).trans_le h))

/-- The dispatcher runs until it has to wait. -/
theorem step?_run (ch : Channel) : ch.run.step? = none := step?_runFor ch.load_le_work

lemma load_runFor (fuel : Nat) (ch : Channel) : (runFor fuel ch).load ≤ ch.load := by
  induction fuel generalizing ch with
  | zero => exact Nat.le_refl _
  | succ fuel ih =>
    rw [runFor]
    cases hstep : ch.step? with
    | none => exact Nat.le_refl _
    | some ch' => exact (ih ch').trans (load_step hstep).le

lemma load_run_lt (h : ch.step? ≠ none) : ch.run.load < ch.load := by
  obtain ⟨ch', hstep⟩ := Option.ne_none_iff_exists'.mp h
  have hrun : ch.run = runFor (2 * ch.queued + 1) ch' := by
    rw [run, work, runFor, hstep]
    rfl
  rw [hrun]
  exact (load_runFor _ ch').trans_lt (load_step hstep)

/-! ### The server -/

/-- Where the server takes as many requests as it has not taken, nothing is left. -/
lemma backlog_take (ch : Channel) : (ch.take ch.backlog.length).2.backlog = [] := by
  have hlength : ch.written.length ≤ ch.taken + (ch.backlog.take ch.backlog.length).length := by
    rw [List.take_length, Channel.backlog, List.length_drop]
    omega
  exact List.drop_eq_nil_of_le hlength

end Channel

/-! ### The stakes of those who act -/

namespace Exchange

/-- How much a request may still bring: itself, and a cancel of the call that it opens. -/
def stake (x : Exchange) : Nat :=
  match x.stage with
  | .queueing => 2
  | .awaiting _ => 1

/-- How much may come where a request has been looked after. -/
def rest : Poll Exchange Reply → Nat
  | .pending x => x.stake
  | .ready _ => 1

lemma stake_le (x : Exchange) : x.stake ≤ 2 := by
  rw [stake]
  split <;> decide

lemma rest_await (span : Time.Span) (now deadline : Nat) (x : Exchange) (ch : Channel) :
    rest (x.await span now deadline ch).1 = 1 := by
  rcases await_cases span now deadline x ch with h | ⟨e, h, -⟩ | ⟨r, h, -⟩
  all_goals
    rw [h]
    rfl

lemma stake_poll (span : Time.Span) (now : Nat) (x : Exchange) (ch : Channel) :
    rest (x.poll span now ch).1 + (x.orders ch).length ≤ x.stake := by
  rw [poll, orders, Channel.accepts]
  cases hstage : x.stage with
  | awaiting deadline =>
    have hstake : x.stake = 1 := by rw [stake, hstage]
    dsimp only
    rw [rest_await, hstake, List.length_nil]
  | queueing =>
    have hstake : x.stake = 2 := by rw [stake, hstage]
    dsimp only
    rw [hstake]
    generalize ch.enqueue x.ticket x.command = result
    obtain ⟨queueing, ch'⟩ := result
    cases queueing with
    | queued =>
      dsimp only
      rw [rest_await, if_pos rfl, List.length_singleton]
    | full => exact hstake.le
    | closed => exact Nat.le_succ 1

end Exchange

namespace Operation

/-- How much an operation may still bring into the queues of the dispatcher. -/
def stake : Operation → Nat
  | .send x | .subscribe _ x | .stream _ _ x => x.stake
  | .fetch .. | .askState .. | .close _ => 1
  | .refused _ | .awaitState .. | .awaitStop _ => 0

lemma stake_le (op : Operation) : op.stake ≤ 2 := by
  cases op with
  | send x => exact x.stake_le
  | subscribe topic x => exact x.stake_le
  | stream plan topic x => exact x.stake_le
  | _ => simp [stake]

end Operation

namespace Party

/-- How much a party may still bring. Whoever holds a subscription may let it go. -/
def stake : Party → Nat
  | .calling op => op.stake
  | .holding _ | .streaming _ => 1

lemma stake_le (p : Party) : p.stake ≤ 2 := by
  cases p with
  | calling op => exact op.stake_le
  | _ => exact Nat.le_succ 1

end Party

/-! ### Operations -/

namespace Subscription

lemma length_loses_le (sub : Subscription) (ch : Channel) : (sub.loses ch).length ≤ 1 := by
  rw [loses]
  split <;> simp

end Subscription

namespace Operation

/-- How much may come where an operation has been looked after. -/
def rest : Poll Operation Outcome → Nat
  | .pending op => op.stake
  | .ready result => (Party.keeping result).elim 0 Party.stake

lemma rest_ready_le (result : Except Client.Error Outcome) : rest (.ready result) ≤ 1 := by
  rw [rest]
  cases result with
  | error e => exact Nat.zero_le 1
  | ok outcome => cases outcome <;> simp [Party.keeping, Party.stake]

/-- A stream whose subscription is open is kept or cancels its call. -/
lemma stake_pollFetch (s : Setting) (now : Nat) (plan : Plan) (sub : Subscription) (due : Nat)
    (ch : Channel) :
    rest (pollFetch s now plan sub due ch).1 + (unfetched s now plan sub due ch).length ≤ 1 := by
  rw [pollFetch, unfetched]
  split
  · exact Nat.le_refl 1
  · cases viewer s plan with
    | ok v => exact Nat.le_refl 1
    | error e => exact (Nat.zero_add _).trans_le (sub.length_loses_le ch)

lemma rest_pollState (s : Setting) (now : Nat) (l : ListenerId) (deadline : Nat) (ch : Channel) :
    rest (pollState s now l deadline ch).1 = 0 := by
  rw [pollState]
  split
  · rfl
  · split <;> rfl

lemma rest_pollStop (now deadline : Nat) (ch : Channel) :
    rest (pollStop now deadline ch).1 = 0 := by
  rw [pollStop]
  split
  · rfl
  · split <;> rfl

/-- An operation brings no more than its stake. -/
theorem stake_poll (s : Setting) (now : Nat) (op : Operation) (ch : Channel) :
    rest (op.poll s now ch).1 + ((op.orders ch).length + (op.loses s now ch).length)
      ≤ op.stake := by
  cases op with
  | send x =>
    have hpoll := x.stake_poll s.config.replyTimeout now ch
    simp only [poll, orders, loses, stake]
    generalize x.poll s.config.replyTimeout now ch = result at hpoll ⊢
    obtain ⟨found, ch'⟩ := result
    cases found with
    | pending x' => exact hpoll
    | ready result =>
      cases result <;> exact (Nat.add_le_add_right (rest_ready_le _) _).trans hpoll
  | subscribe topic x =>
    have hpoll := x.stake_poll s.config.replyTimeout now ch
    simp only [poll, orders, loses, stake]
    generalize x.poll s.config.replyTimeout now ch = result at hpoll ⊢
    obtain ⟨found, ch'⟩ := result
    cases found with
    | pending x' => exact hpoll
    | ready result =>
      cases result <;> exact (Nat.add_le_add_right (rest_ready_le _) _).trans hpoll
  | stream plan topic x =>
    have hpoll := x.stake_poll s.config.replyTimeout now ch
    simp only [poll, orders, loses, stake]
    generalize x.poll s.config.replyTimeout now ch = result at hpoll ⊢
    obtain ⟨found, ch'⟩ := result
    cases found with
    | pending x' => exact hpoll
    | ready result => cases result with
      | error e => exact (Nat.add_le_add_right (rest_ready_le _) _).trans hpoll
      | ok reply =>
        dsimp only
        rw [openedBy]
        cases reply.call with
        | some c =>
          -- What is left of the stake is shared by the stream and the cancel of its call.
          have hqueued : 1 + (x.orders ch).length ≤ x.stake := hpoll
          have hfetch := stake_pollFetch s now plan (.opened c topic x.ticket)
            (if needsHistory plan then now + s.history.delay.nanos else now) ch'
          dsimp only
          omega
        | none => exact (Nat.add_le_add_right (rest_ready_le _) _).trans hpoll
  | refused request => exact Nat.le_refl 0
  | fetch plan sub due =>
    have hfetch := stake_pollFetch s now plan sub due ch
    simp only [poll, orders, loses, stake, List.length_nil]
    omega
  | askState t l =>
    simp only [poll, orders, loses, stake, Channel.accepts]
    generalize ch.enqueue t (.send .state none) = result
    obtain ⟨queueing, ch'⟩ := result
    cases queueing with
    | queued =>
      dsimp only
      rw [rest_pollState, if_pos rfl]
      exact Nat.le_refl 1
    | full => exact Nat.le_refl 1
    | closed => exact Nat.zero_le 1
  | awaitState l deadline =>
    simp only [poll, orders, loses, stake, List.length_nil]
    rw [rest_pollState]
  | close t =>
    simp only [poll, orders, loses, stake, Channel.accepts]
    generalize ch.enqueue t .close = result
    obtain ⟨queueing, ch'⟩ := result
    cases queueing with
    | queued =>
      dsimp only
      rw [rest_pollStop, if_pos rfl]
      exact Nat.le_refl 1
    | full => exact Nat.le_refl 1
    | closed =>
      dsimp only
      rw [rest_pollStop]
      exact Nat.zero_le 1
  | awaitStop deadline =>
    simp only [poll, orders, loses, stake, List.length_nil]
    rw [rest_pollStop]

end Operation

/-! ### Systems -/

namespace Table

variable {κ α : Type} [DecidableEq κ]

lemma sum_erase (f : α → Nat) {k : κ} {a : α} {t : Table κ α} (h : t.find? k = some a) :
    ((t.erase k).map fun p => f p.2).sum + f a ≤ (t.map fun p => f p.2).sum := by
  induction t with
  | nil => cases h
  | cons p t ih =>
    obtain ⟨j, b⟩ := p
    by_cases hj : j = k
    · subst hj
      rw [find?, if_pos rfl] at h
      obtain rfl := Option.some.inj h
      have hle : ((erase j t).map fun p => f p.2).sum ≤ (t.map fun p => f p.2).sum :=
        (List.filter_sublist.map _).sum_le_sum fun _ _ => Nat.zero_le _
      rw [erase_cons_self, List.map_cons, List.sum_cons, Nat.add_comm (f b)]
      exact Nat.add_le_add_right hle _
    · rw [find?, if_neg hj] at h
      have hle := ih h
      rw [erase_cons_of_ne hj, List.map_cons, List.map_cons, List.sum_cons, List.sum_cons]
      omega

lemma sum_insert (f : α → Nat) (k : κ) (a : α) (t : Table κ α) :
    ((t.insert k a).map fun p => f p.2).sum = ((t.erase k).map fun p => f p.2).sum + f a := by
  simp [insert]

end Table

namespace System

variable {s s' : System} {o : Option ListenerId} {texts : List String} {os : List Command}
  {cs : List CallId} {rs : List Fanout.Reading} {t : Ticket} {a : Act}

/-- How much all parties together may still bring. -/
def stake (s : System) : Nat := (s.parties.map fun p => p.2.stake).sum

/-- A bound on what the dispatcher does until it has to wait for somebody who is not there yet. -/
def toil (s : System) : Nat := s.channel.load + 2 * s.stake

lemma stake_le (s : System) : s.stake ≤ 2 * s.parties.length := by
  have hle : s.stake ≤ (s.parties.map fun p => p.2.stake).length • 2 :=
    List.sum_le_card_nsmul _ _ fun n hn => by
      obtain ⟨p, -, rfl⟩ := List.mem_map.mp hn
      exact p.2.stake_le
  rwa [List.length_map, Nat.nsmul_eq_mul, Nat.mul_comm] at hle

lemma stake_put {p : Party} (h : s.parties.find? t = some p) (p' : Option Party) (ch : Channel) :
    (put t p' { s with channel := ch }).stake + p.stake ≤ s.stake + p'.elim 0 Party.stake := by
  have herase := Table.sum_erase Party.stake h
  cases p' with
  | none => exact herase
  | some p' =>
    rw [stake, put]
    dsimp only
    rw [Table.sum_insert]
    rw [stake, Option.elim_some]
    omega

lemma stake_dropUnused (s : System) : s.dropUnused.stake = s.stake := by
  unfold dropUnused
  split <;> rfl

lemma load_uses (h : Uses s o texts os cs rs s') :
    s'.channel.load ≤ s.channel.load + 2 * (os.length + cs.length + texts.length) := by
  rcases h.texts with hstop | ⟨hphase, hinbound⟩
  · rw [Channel.load_of_stopped hstop]
    exact Nat.zero_le _
  · rcases h.queues with hstop | ⟨-, hcommands, hcancels⟩
    · rw [Channel.load_of_stopped hstop]
      exact Nat.zero_le _
    · refine Channel.load_of_queued hphase ?_
      simp only [Channel.queued, hcommands, hcancels, hinbound, List.length_append]
      omega

/-- Whoever brings no more than is at stake makes no more toil. -/
lemma toil_act (ha : a ≠ .dispatch) (htexts : s.arriving a = [])
    (hstake : (s.act a).stake + ((s.orders a).length + (s.loses a).length) ≤ s.stake) :
    (s.act a).toil ≤ s.toil := by
  have hload := load_uses (uses_act ha s)
  rw [htexts, List.length_nil] at hload
  rw [toil, toil]
  omega

lemma toil_look (t : Ticket) (s : System) : (s.act (.look t)).toil ≤ s.toil := by
  refine toil_act (by rintro ⟨⟩) rfl ?_
  simp only [act, look, orders, loses]
  cases hparty : s.parties.find? t with
  | none => exact Nat.le_refl _
  | some p => cases p with
    | calling op =>
      have hpoll := op.stake_poll s.setting s.now s.channel
      dsimp only
      generalize op.poll s.setting s.now s.channel = result at hpoll ⊢
      obtain ⟨found, ch⟩ := result
      cases found with
      | pending op' =>
        have hput : _ + op.stake ≤ s.stake + op'.stake :=
          stake_put hparty (some (.calling op')) ch
        have hrest : op'.stake + _ ≤ op.stake := hpoll
        dsimp only
        omega
      | ready result =>
        have hput : _ + op.stake ≤ s.stake + (Party.keeping result).elim 0 Party.stake :=
          stake_put hparty (Party.keeping result) ch
        have hrest : (Party.keeping result).elim 0 Party.stake + _ ≤ op.stake := hpoll
        dsimp only
        rw [stake_dropUnused]
        omega
    | holding | streaming => exact Nat.le_refl _

lemma toil_release (t : Ticket) (s : System) : (s.act (.release t)).toil ≤ s.toil := by
  refine toil_act (by rintro ⟨⟩) rfl ?_
  simp only [act, release, orders, loses, List.length_nil, Nat.zero_add]
  cases hparty : s.parties.find? t with
  | none => exact Nat.le_refl _
  | some p => cases p with
    | calling op => exact Nat.le_refl _
    | holding sub =>
      exact (Nat.add_le_add_left (sub.length_loses_le s.channel) _).trans (stake_put hparty none _)
    | streaming st =>
      exact (Nat.add_le_add_left (st.subscription.length_loses_le s.channel) _).trans
        (stake_put hparty none _)

lemma toil_leave (l : ListenerId) (s : System) : (s.act (.leave l)).toil ≤ s.toil := by
  refine toil_act (by rintro ⟨⟩) rfl ?_
  rw [act]
  split <;> exact Nat.le_refl _

lemma toil_take (max : Nat) (s : System) : (s.act (.take max)).toil ≤ s.toil :=
  toil_act (by rintro ⟨⟩) rfl (Nat.le_refl _)

/-! ### Runs of the dispatcher -/

/-- A run of the dispatcher is made of its acts. -/
lemma play_dispatch (n : Nat) (s : System) :
    s.play (List.replicate n .dispatch) = { s with channel := s.channel.runFor n } := by
  induction n generalizing s with
  | zero => rfl
  | succ n ih =>
    rw [List.replicate_succ, play, ih, Channel.runFor, act]
    cases hstep : s.channel.step? with
    | none => rw [Option.getD_none, Channel.runFor_of_waiting hstep]
    | some ch => rfl

end System

end GroundLink.Connection
