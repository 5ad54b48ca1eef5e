import GroundLink.Proofs.Connection.Listening
import GroundLink.Proofs.Connection.Sweeping

/-!
# What callers learn of the server state

A caller who asks for the server state listens first and is told thereafter, through the same frames
that all others hear. It finds the first state among them, as long as it is not too far behind. It
finds nothing else there: a reply that rejects its request is a frame like any other.
-/

namespace GroundLink.Connection

open Model Protocol View.EventLog

variable {setting : Setting} {textRoom : Nat} {h : List Note} {s : System} {t : Ticket}
  {l : ListenerId} {ch : Channel} {op : Operation} {frames : List Frame}

/-! ### States among frames -/

lemma findSome?_drop (hnone : frames.findSome? Frame.state? = none) (n : Nat) :
    (frames.drop n).findSome? Frame.state? = none := by
  rw [List.findSome?_eq_none_iff] at hnone ⊢
  exact fun f hf => hnone f (List.mem_of_mem_drop hf)

lemma findSome?_silent {frame : Option Frame} (hsilent : Channel.Silent frame) :
    frame.toList.findSome? Frame.state? = none := by
  rw [List.findSome?_eq_none_iff]
  exact fun f hf => hsilent f (Option.mem_toList.mp hf)

/-- The first state is among the latest frames if there are not too many frames after it. -/
lemma findSome?_latest {size : Nat} {sent tail before after : List Frame} {st : ServerState}
    (hframes : sent ++ tail = before ++ .state st :: after)
    (htail : tail.findSome? Frame.state? = none)
    (hbefore : before.findSome? Frame.state? = none) (hafter : after.length < size) :
    (latest (some size) sent).findSome? Frame.state? = some st := by
  -- All that has been dropped stands before the state.
  have hdrop : latest (some size) sent ++ tail
      = before.drop (sent.length - size) ++ .state st :: after := by
    have hlength := congrArg List.length hframes
    simp only [List.length_append, List.length_cons] at hlength
    rw [latest, ← List.drop_append_of_le_length (Nat.sub_le ..), hframes,
      List.drop_append_of_le_length (by omega)]
  have hfound := congrArg (List.findSome? Frame.state?) hdrop
  rwa [List.findSome?_append, List.findSome?_append, htail, findSome?_drop hbefore, Option.or_none,
    Option.none_or] at hfound

namespace System

/-! ### Callers that keep up -/

/-- A caller that has asked for the server state and has not found it in the frames that have been
handled since. It has still to hear the latest of those that have been sent. -/
structure Follows (t : Ticket) (l : ListenerId) (frames : List Frame) (s : System) : Prop where
  asker : ∃ op, s.parties.find? t = some (.calling op) ∧ op.listener? = some l
  present : (s.channel.fanout.listeners.find? l).isSome
  /-- A reply may have been handled before and be sent thereafter. -/
  unheard : ∃ lead sent heard, sent ++ s.channel.flight.toList = lead ++ frames
    ∧ lead.findSome? Frame.state? = none
    ∧ latest (some Fanout.capacity) sent = heard ++ s.channel.fanout.unheard l
    ∧ heard.findSome? Frame.state? = none

/-- A caller that comes has missed nothing. -/
lemma Tuned.follows (hs : s.Tuned) (hconnected : s.connected = true) :
    Follows ⟨s.channel.nextTicket⟩ ⟨s.channel.fanout.nextListener⟩ [] (s.act .askState) := by
  obtain ⟨hchannel, hparty⟩ := act_askState hconnected
  refine ⟨⟨_, hparty, rfl⟩, ?_, s.channel.flight.toList, [], [], ?_,
    findSome?_silent hs.silent, ?_, rfl⟩
  · rw [hchannel]
    exact Option.isSome_of_eq_some (Table.find?_insert_self ..)
  · rw [hchannel, List.append_nil]
    rfl
  · rw [hchannel]
    exact (Fanout.unheard_listen hs.sound).symm

/-- Only the dispatcher sends what waits to be sent. -/
lemma flight_act {a : Act} (ha : a ≠ .dispatch) (hrun : (s.act a).channel.isStopped = false) :
    (s.act a).channel.flight = s.channel.flight := by
  rcases (adds_act ha s).texts with hstop | ⟨hphase, -⟩
  · cases hstop.symm.trans hrun
  · exact Channel.flight_of_phase hphase

/-- The frames that a caller has not heard are followed by what is sent. -/
lemma latest_publish {f : Fanout} {sent heard : List Frame} (frame : Frame) (hf : f.Sound)
    (hl : (f.listeners.find? l).isSome)
    (hlatest : latest (some Fanout.capacity) sent = heard ++ f.unheard l)
    (hheard : heard.findSome? Frame.state? = none) :
    ∃ heard', latest (some Fanout.capacity) (sent ++ [frame])
        = heard' ++ (f.publish frame).unheard l
      ∧ heard'.findSome? Frame.state? = none := by
  have hmore : latest (some Fanout.capacity) (sent ++ [frame])
      = latest (some Fanout.capacity) (heard ++ (f.unheard l ++ [frame])) := by
    rw [← latest_append, hlatest, List.append_assoc]
  rw [hmore, Fanout.unheard_publish frame hf hl]
  generalize Fanout.capacity = size
  exact ⟨_, latest_eq_append .., findSome?_drop hheard _⟩

lemma Follows.dispatch (hs : s.Tuned) (hf : Follows t l frames s)
    (hrun : (s.act .dispatch).channel.isStopped = false)
    (hasker : ∃ op, (s.act .dispatch).parties.find? t = some (.calling op)
      ∧ op.listener? = some l) :
    Follows t l (frames ++ handledFrames (s.notes .dispatch)) (s.act .dispatch) := by
  obtain ⟨-, hpresent, lead, sent, heard, hsent, hlead, hlatest, hheard⟩ := hf
  obtain ⟨p, hp⟩ := Option.isSome_iff_exists.mp hpresent
  obtain ⟨more, hfanout, hmore⟩ := (relays_dispatch hs.silent).sent
  -- Somebody listens, so that each frame that is handled is sent, at once or later.
  have hframes : (sent ++ more.toList) ++ (s.act .dispatch).channel.flight.toList
      = lead ++ (frames ++ handledFrames (s.notes .dispatch)) := by
    rw [List.append_assoc, hmore hrun (Fanout.isHeard_of_find hp), ← List.append_assoc, hsent,
      List.append_assoc]
  cases more with
  | none =>
    have hsame : (s.act .dispatch).channel.fanout = s.channel.fanout := hfanout
    refine ⟨hasker, by rw [hsame]; exact hpresent, lead, _, heard, hframes, hlead, ?_, hheard⟩
    rw [hsame, Option.toList_none, List.append_nil, hlatest]
  | some frame =>
    have hpublish : (s.act .dispatch).channel.fanout = s.channel.fanout.publish frame := hfanout
    obtain ⟨heard', hlatest', hheard'⟩ := latest_publish frame hs.sound hpresent hlatest hheard
    refine ⟨hasker, ?_, lead, _, heard', hframes, hlead, ?_, hheard'⟩
    · rw [hpublish, Fanout.listeners_publish]
      exact hpresent
    · rw [hpublish]
      exact hlatest'

/-- A caller that goes on has looked in vain, or is still in line. -/
lemma Follows.look (hf : Follows t l frames s)
    (hparty : s.parties.find? t = some (.calling op)) (hop : op.listener? = some l)
    (hrun : s.channel.isStopped = false) (hrun' : (s.act (.look t)).channel.isStopped = false)
    {op' : Operation} (hpoll : (op.poll s.setting s.now s.channel).1 = .pending op') :
    Follows t l frames (s.act (.look t)) := by
  obtain ⟨-, hpresent, lead, sent, heard, hsent, hlead, hlatest, hheard⟩ := hf
  obtain ⟨hafter, hchannel⟩ := act_look_of_calling hparty
  rw [hpoll] at hafter
  replace hchannel := hchannel op' hpoll
  rw [← flight_act (by exact nofun) hrun'] at hsent
  cases Operation.seeks s.setting s.now hop s.channel with
  | inLine _ hsame hfanout =>
    obtain rfl : op = op' := by
      rw [hsame] at hpoll
      injection hpoll
    rw [← hchannel] at hfanout
    refine ⟨⟨_, hafter, hop⟩, ?_, lead, sent, heard, hsent, hlead, ?_, hheard⟩
    · rw [hfanout]
      exact hpresent
    · rw [hfanout]
      exact hlatest
  | closed hstop => cases hrun.symm.trans hstop
  | looks hstate hfanout =>
    rw [hstate] at hpoll hchannel
    obtain ⟨rfl, hnone, hnil, hfind⟩ := (Operation.pollState_eq ..).2 op' hpoll
    rw [hfanout] at hnone hfind
    rw [← hchannel] at hnil hfind
    refine ⟨⟨_, hafter, rfl⟩, hfind.mpr hpresent, lead, sent,
      heard ++ s.channel.fanout.unheard l, hsent, hlead, ?_, ?_⟩
    · rw [hnil, List.append_nil, hlatest]
    · rw [List.findSome?_append, hheard, hnone]
      rfl

lemma Follows.act (hs : s.Tuned) (hf : Follows t l frames s) {a : Act} {p : Party}
    (hrun : (s.act a).channel.isStopped = false) (hp : (s.act a).parties.find? t = some p) :
    Follows t l (frames ++ handledFrames (s.notes a)) (s.act a) := by
  obtain ⟨op, hparty, hop⟩ := hf.asker
  rcases hs.asker_act hparty hop hp with ⟨op', rfl, hpoll, rfl, -⟩ | ⟨rfl, hm⟩
  · have hrunning : s.channel.isStopped = false := @running_of_play s [.look t] hrun
    rw [handledFrames_notes (by exact nofun), List.append_nil]
    exact hf.look hparty hop hrunning hrun hpoll
  · by_cases ha : a = .dispatch
    · subst ha
      exact hf.dispatch hs hrun ⟨op, hp, hop⟩
    · obtain ⟨-, hpresent, lead, sent, heard, hsent, hlead, hlatest, hheard⟩ := hf
      have hkeeps := (adds_act ha s).fanout
      rw [handledFrames_notes ha, List.append_nil]
      refine ⟨⟨op, hp, hop⟩, ?_, lead, sent, heard, ?_, hlead, ?_, hheard⟩
      · rw [hkeeps.listeners l hm]
        exact hpresent
      · rw [flight_act ha hrun]
        exact hsent
      · rw [hkeeps.unheard hm]
        exact hlatest

lemma Follows.play (hs : s.Tuned) (hf : Follows t l frames s) {as : List Act} {p : Party}
    (hrun : (s.play as).channel.isStopped = false) (hp : (s.play as).parties.find? t = some p) :
    Follows t l (frames ++ handledFrames (s.log as)) (s.play as) := by
  induction as generalizing s frames with
  | nil =>
    rw [log, handledFrames_nil, List.append_nil]
    exact hf
  | cons a as ih =>
    obtain ⟨op, hparty, hop⟩ := hf.asker
    obtain ⟨q, hq⟩ := hs.asker_stays hparty hop hp
    rw [log, handledFrames_append, ← List.append_assoc]
    exact ih (hs.act a) (hf.act hs (running_of_play hrun) hq) hrun hp

/-- The first state is there for a caller that is not too far behind. -/
lemma Follows.told (hs : s.Tuned) (hf : Follows t l frames s) {before after : List Frame}
    {st : ServerState} (hframes : frames = before ++ .state st :: after)
    (hbefore : before.findSome? Frame.state? = none) (hafter : after.length < Fanout.capacity) :
    (s.channel.fanout.unheard l).findSome? Frame.state? = some st := by
  obtain ⟨-, -, lead, sent, heard, hsent, hlead, hlatest, hheard⟩ := hf
  have hbefore' : (lead ++ before).findSome? Frame.state? = none := by
    rw [List.findSome?_append, hlead, hbefore]
    rfl
  rw [hframes, ← List.append_assoc] at hsent
  have hfound := findSome?_latest hsent (findSome?_silent hs.silent) hbefore' hafter
  rwa [hlatest, List.findSome?_append, hheard, Option.none_or] at hfound

/-- There is none if none has been handled. -/
lemma Follows.untold (hf : Follows t l frames s) (hnone : frames.findSome? Frame.state? = none) :
    (s.channel.fanout.unheard l).findSome? Frame.state? = none := by
  obtain ⟨-, -, lead, sent, heard, hsent, hlead, hlatest, hheard⟩ := hf
  have hsilent := congrArg (List.findSome? Frame.state?) hsent
  rw [List.findSome?_append, List.findSome?_append, hlead, hnone, Option.none_or,
    Option.or_eq_none_iff] at hsilent
  have hfound : (latest (some Fanout.capacity) sent).findSome? Frame.state? = none :=
    findSome?_drop hsilent.1 _
  rwa [hlatest, List.findSome?_append, hheard, Option.none_or] at hfound

/-- What a caller finds when it looks. -/
lemma Follows.poll (hf : Follows t l frames s) (hparty : s.parties.find? t = some (.calling op))
    (hrun : s.channel.isStopped = false) :
    (op.InLine s.channel ∧ (op.poll s.setting s.now s.channel).1 = .pending op)
      ∨ ∃ deadline, (op.poll s.setting s.now s.channel).1
          = Operation.stateFound s.setting s.now l deadline
            ((s.channel.fanout.unheard l).findSome? Frame.state?)
        ∧ ∀ l' d, op = .awaitState l' d → l' = l ∧ deadline = d := by
  obtain ⟨op', hparty', hop⟩ := hf.asker
  obtain rfl : op = op' := by
    rw [hparty] at hparty'
    injection hparty' with h
    injection h
  cases Operation.seeks s.setting s.now hop s.channel with
  | inLine hline hpending => exact .inl ⟨hline, hpending⟩
  | closed hstop => cases hrun.symm.trans hstop
  | @looks deadline _ hpoll hfanout hdeadline =>
    refine .inr ⟨deadline, ?_, ?_⟩
    · rw [hpoll, (Operation.pollState_eq ..).1, hfanout]
    · rintro l' d rfl
      obtain rfl := Option.some.inj hop
      exact ⟨rfl, hdeadline d rfl⟩

/-- A caller that waits finds nothing before a state has been handled. -/
lemma Follows.wait {deadline : Nat} {l' : ListenerId} (hf : Follows t l frames s)
    (hparty : s.parties.find? t = some (.calling (.awaitState l' deadline)))
    (hrun : s.channel.isStopped = false) (hnone : ∀ f ∈ frames, f.state? = none) :
    ((Operation.awaitState l' deadline).poll s.setting s.now s.channel).1
      = Operation.stateFound s.setting s.now l' deadline none := by
  rcases hf.poll hparty hrun with ⟨⟨_, _, ⟨⟩, -⟩, -⟩ | ⟨deadline', hpoll, hsame⟩
  obtain ⟨rfl, rfl⟩ := hsame l' deadline rfl
  rw [hpoll, hf.untold (List.findSome?_eq_none_iff.mpr hnone)]

end System

/-! ### Runs -/

/-- What a caller finds that has come to ask for the server state, by the frames that have been
handled since. -/
structure System.Learns (s : System) (op : Operation) (frames : List Frame) : Prop where
  /-- It finds the first state, unless it is still in line. -/
  told : ∀ before st after, frames = before ++ .state st :: after →
    (∀ f ∈ before, f.state? = none) → after.length < Fanout.capacity →
    (op.poll s.setting s.now s.channel).1 = .ready (.ok (.state st))
      ∨ op.InLine s.channel ∧ (op.poll s.setting s.now s.channel).1 = .pending op
  /-- It does not leave before, unless its time is up. -/
  waits : (∀ f ∈ frames, f.state? = none) → ∀ l deadline, op = .awaitState l deadline →
    s.now < deadline → (op.poll s.setting s.now s.channel).1 = .pending op

/-- A caller that listens keeps up with the frames that are handled. -/
lemma Run.follows (hrun : Run setting textRoom h s) (hconnected : s.connected = true)
    (as : List System.Act) {p : Party}
    (hrunning : ((s.act .askState).play as).channel.isStopped = false)
    (hp : ((s.act .askState).play as).parties.find? ⟨s.channel.nextTicket⟩ = some p) :
    System.Follows ⟨s.channel.nextTicket⟩ ⟨s.channel.fanout.nextListener⟩
      (handledFrames ((s.act .askState).log as)) ((s.act .askState).play as) :=
  (hrun.tuned.follows hconnected).play (hrun.act .askState).tuned hrunning hp

/-- In every run, a caller who asks for the server state finds the first one that is handled after
it has come, whatever other frames there are, as long as fewer frames are handled thereafter than
are held for a listener. -/
theorem Run.state_told (hrun : Run setting textRoom h s) (hconnected : s.connected = true)
    (as : List System.Act) (hrunning : ((s.act .askState).play as).channel.isStopped = false)
    (hparty : ((s.act .askState).play as).parties.find? ⟨s.channel.nextTicket⟩
      = some (.calling op)) :
    ((s.act .askState).play as).Learns op (handledFrames ((s.act .askState).log as)) := by
  have hfollows := hrun.follows hconnected as hrunning hparty
  have hs : ((s.act .askState).play as).Tuned := ((hrun.act .askState).play as).tuned
  refine ⟨fun before st after hhandled hfirst hlag => ?_, fun hnone l deadline hop hnow => ?_⟩
  · have htold := hfollows.told hs hhandled (List.findSome?_eq_none_iff.mpr hfirst) hlag
    have hpoll := hfollows.poll hparty hrunning
    rw [htold] at hpoll
    exact (hpoll.imp_right fun ⟨_, hfound, _⟩ => hfound).symm
  · subst hop
    rw [hfollows.wait hparty hrunning hnone]
    exact if_neg (Nat.not_le.mpr hnow)

/-! ### A state among other frames -/

namespace System

/-- The request of a caller is queued and written, and so is that of a second caller. -/
def asking : List Act := [.askState, .look ⟨0⟩, .look ⟨1⟩, .dispatch, .dispatch]

/-- The state comes between two events. -/
def informing : List Act :=
  asking ++ [.push (eventText 5 0), .push stateText, .push (eventText 5 1), .dispatch, .dispatch,
    .dispatch]

def informed : System := (plain.act .askState).play informing

/-- The state comes, and as many other frames after it as are held for a listener. -/
def flooding : List Act :=
  asking ++ [.push stateText, .dispatch]
    ++ (List.replicate Fanout.capacity [.push "", .dispatch]).flatten

def flooded : System := (plain.act .askState).play flooding

end System

theorem Run.state_told_amid_events :
    System.plain.connected = true ∧ System.informed.channel.isStopped = false
      ∧ System.informed.parties.find? ⟨0⟩ = some (.calling (.awaitState ⟨0⟩ 30000000000))
      ∧ (handledFrames ((System.plain.act .askState).log System.informing)).length = 3
      ∧ ∃ st, (handledFrames ((System.plain.act .askState).log System.informing)).findSome?
          Frame.state? = some st
        ∧ ((Operation.awaitState ⟨0⟩ 30000000000).poll System.informed.setting System.informed.now
            System.informed.channel).1 = .ready (.ok (.state st)) := by
  have hconnected : System.plain.connected = true := rfl
  have hrunning : System.informed.channel.isStopped = false := by decide +kernel
  have hparty : System.informed.parties.find? ⟨0⟩
      = some (.calling (.awaitState ⟨0⟩ 30000000000)) := Party.eq_of_waiting (by decide +kernel)
  have hlength : (handledFrames ((System.plain.act .askState).log System.informing)).length
      = 3 := by decide +kernel
  obtain ⟨st, hst⟩ : ∃ st, (handledFrames ((System.plain.act .askState).log
      System.informing)).findSome? Frame.state? = some st :=
    Option.isSome_iff_exists.mp (by decide +kernel)
  refine ⟨hconnected, hrunning, hparty, hlength, st, hst, ?_⟩
  obtain ⟨before, f, after, hhandled, hf, hfirst⟩ := List.findSome?_eq_some_iff.mp hst
  obtain rfl : f = .state st := by
    cases f <;> cases hf
    rfl
  have hlag : after.length < Fanout.capacity := by
    rw [hhandled, List.length_append, List.length_cons] at hlength
    exact Nat.lt_of_lt_of_le (by omega : after.length < 3) (by decide)
  have hlearns := Run.state_told Run.start hconnected System.informing hrunning hparty
  refine (hlearns.told before st after hhandled hfirst hlag).resolve_right ?_
  rintro ⟨⟨_, _, ⟨⟩, -⟩, -⟩

set_option maxRecDepth 4000 in
/-- A caller does not find a state that has been handled in its time, as it looks after too many
frames. -/
theorem System.state_missed :
    ((handledFrames ((plain.act .askState).log flooding)).head?.bind Frame.state?).isSome = true
      ∧ (handledFrames ((plain.act .askState).log flooding)).length = Fanout.capacity + 1
      ∧ flooded.channel.isStopped = false ∧ flooded.connected = true ∧ flooded.now = 0
      ∧ flooded.parties.find? ⟨0⟩ = some (.calling (.awaitState ⟨0⟩ 30000000000))
      ∧ ∀ now st, ((Operation.awaitState ⟨0⟩ 30000000000).poll flooded.setting now
          flooded.channel).1 ≠ .ready (.ok (.state st)) := by
  have hmissed : (flooded.channel.fanout.unheard ⟨0⟩).findSome? Frame.state? = none :=
    Option.isNone_iff_eq_none.mp (by decide +kernel)
  refine ⟨by decide +kernel, by decide +kernel, by decide +kernel, by decide +kernel,
    by decide +kernel, Party.eq_of_waiting (by decide +kernel), fun now st => ?_⟩
  rw [Operation.poll, (Operation.pollState_eq ..).1, hmissed, Operation.stateFound]
  split <;> rintro ⟨⟩

/-- In every run, a caller who waits for the server state waits until its time is up when no state
is handled, whatever replies there are. A reply that rejects its request does not reach it. -/
theorem Run.state_awaited (hrun : Run setting textRoom h s) (hconnected : s.connected = true)
    (as : List System.Act) (hrunning : ((s.act .askState).play as).channel.isStopped = false)
    {deadline : Nat} (hparty : ((s.act .askState).play as).parties.find? ⟨s.channel.nextTicket⟩
      = some (.calling (.awaitState l deadline)))
    (hnone : ∀ f ∈ handledFrames ((s.act .askState).log as), f.state? = none) :
    ((Operation.awaitState l deadline).poll ((s.act .askState).play as).setting
        ((s.act .askState).play as).now ((s.act .askState).play as).channel).1
      = if deadline ≤ ((s.act .askState).play as).now then
          .ready (.error (.timeout "state" ((s.act .askState).play as).setting.config.replyTimeout))
        else .pending (.awaitState l deadline) :=
  (hrun.follows hconnected as hrunning hparty).wait hparty hrunning hnone

/-! ### A rejected request -/

namespace System

/-- The server rejects the request for its state. -/
def refusing : List Act := [.look ⟨0⟩, .dispatch, .push (rejectingText 1), .dispatch]

def refused : System := (plain.act .askState).play refusing

end System

theorem Run.state_awaited_rejected :
    System.plain.connected = true ∧ System.refused.channel.isStopped = false
      ∧ System.refused.parties.find? ⟨0⟩ = some (.calling (.awaitState ⟨0⟩ 30000000000))
      ∧ (handledFrames ((System.plain.act .askState).log System.refusing)).length = 1
      ∧ (∀ f ∈ handledFrames ((System.plain.act .askState).log System.refusing), f.state? = none)
      ∧ ((Operation.awaitState ⟨0⟩ 30000000000).poll System.refused.setting System.refused.now
          System.refused.channel).1 = .pending (.awaitState ⟨0⟩ 30000000000) := by
  have hconnected : System.plain.connected = true := rfl
  have hrunning : System.refused.channel.isStopped = false := by decide +kernel
  have hparty : System.refused.parties.find? ⟨0⟩
      = some (.calling (.awaitState ⟨0⟩ 30000000000)) := Party.eq_of_waiting (by decide +kernel)
  have hnone : ∀ f ∈ handledFrames ((System.plain.act .askState).log System.refusing),
      f.state? = none :=
    List.findSome?_eq_none_iff.mp (Option.isNone_iff_eq_none.mp (by decide +kernel))
  have hwaits := Run.state_awaited Run.start hconnected System.refusing hrunning hparty hnone
  exact ⟨hconnected, hrunning, hparty, by decide +kernel, hnone,
    hwaits.trans (if_neg (by decide +kernel))⟩

/-- The reply that rejects the request is handled in time, and the caller waits until its time is
up. -/
theorem System.rejection_unheard :
    refused.channel.written = [⟨⟨1⟩, .state⟩]
      ∧ (handledFrames ((plain.act .askState).log refusing)).filterMap Frame.reply?
        = [⟨none, some ⟨1⟩, some ⟨404, "NotFound", "none"⟩⟩]
      ∧ refused.now = 0
      ∧ refused.parties.find? ⟨0⟩ = some (.calling (.awaitState ⟨0⟩ 30000000000))
      ∧ ∀ now, ((Operation.awaitState ⟨0⟩ 30000000000).poll refused.setting now refused.channel).1
        = if 30000000000 ≤ now then .ready (.error (.timeout "state" ⟨30000000000⟩))
          else .pending (.awaitState ⟨0⟩ 30000000000) := by
  have huntold : (refused.channel.fanout.unheard ⟨0⟩).findSome? Frame.state? = none :=
    Option.isNone_iff_eq_none.mp (by decide +kernel)
  have htimeout : refused.setting.config.replyTimeout = ⟨30000000000⟩ := by decide +kernel
  refine ⟨by decide +kernel, by decide +kernel, by decide +kernel,
    Party.eq_of_waiting (by decide +kernel), fun now => ?_⟩
  rw [Operation.poll, (Operation.pollState_eq ..).1, huntold, Operation.stateFound, htimeout]

end GroundLink.Connection
