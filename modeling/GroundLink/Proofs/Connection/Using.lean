import GroundLink.Proofs.Connection.Hearing
import GroundLink.Proofs.Connection.Showing
import Mathlib.Algebra.GroupWithZero.Nat

/-!
# Who uses a connection

Callers queue commands, and whoever lets a subscription go queues a cancel. Where a listener reads,
only that listener moves, and what it has missed is counted. Nothing else that callers and consumers
do matters to the dispatcher or to other listeners, and neither does what the server does, but for
its texts.
-/

namespace GroundLink.Connection

open Protocol

variable {ch ch' ch'' : Channel} {o : Option ListenerId} {os os' : List Command}
  {cs cs' : List CallId} {rs rs' : List Fanout.Reading} {s s' : System}

namespace Fanout

/-! ### Readings -/

/-- How many frames a listener has missed with a reading. -/
def Reading.skipped : Reading → Nat
  | .frame n _ | .nothing n => n

/-- How many frames are missed with some readings. -/
def missed (rs : List Reading) : Nat := (rs.map Reading.skipped).sum

lemma missed_append (rs rs' : List Reading) : missed (rs ++ rs') = missed rs + missed rs' := by
  rw [missed, List.map_append, List.sum_append]
  rfl

lemma map_snd_mk (l : ListenerId) (rs : List Reading) : (rs.map (l, ·)).map (·.2) = rs := by
  rw [List.map_map]
  exact List.map_id _

end Fanout

/-! ### Uses of a connection -/

namespace Channel

/-- Who acts on a connection leaves what the server does alone, and all listeners but one. -/
structure Spares (o : Option ListenerId) (ch ch' : Channel) : Prop where
  held : ch'.held = ch.held
  fanout : ch.fanout.Keeps o ch'.fanout
  texts : ch'.isStopped = true ∨ ch'.phase = ch.phase ∧ ch'.inbound = ch.inbound
  server : ch'.taken = ch.taken ∧ ch'.serverReads = ch.serverReads

lemma Spares.of_eq (hphase : ch'.phase = ch.phase) (hinbound : ch'.inbound = ch.inbound)
    (hheld : ch'.held = ch.held) (hfanout : ch'.fanout = ch.fanout) (htaken : ch'.taken = ch.taken)
    (hreads : ch'.serverReads = ch.serverReads) : Spares o ch ch' where
  held := hheld
  fanout := by
    rw [hfanout]
    exact .refl _ _
  texts := .inr ⟨hphase, hinbound⟩
  server := ⟨htaken, hreads⟩

lemma Spares.trans (h : Spares o ch ch') (h' : Spares o ch' ch'') : Spares o ch ch'' where
  held := h'.held.trans h.held
  fanout := h.fanout.trans h'.fanout
  texts := by
    rcases h'.texts with hstop | ⟨hphase, hinbound⟩
    · exact .inl hstop
    · refine h.texts.imp (fun hstop => ?_) fun ⟨h₁, h₂⟩ => ⟨hphase.trans h₁, hinbound.trans h₂⟩
      rw [isStopped, hphase]
      exact hstop
  server := ⟨h'.server.1.trans h.server.1, h'.server.2.trans h.server.2⟩

/-- Who acts on a connection queues commands and cancels, and writes nothing. -/
structure Asks (orders : List Command) (cancels : List CallId) (ch ch' : Channel) : Prop where
  written : ch'.written = ch.written
  traffic : ∃ dropped, ch'.traffic = { ch.traffic with dropped }
  queues : ch'.isStopped = true ∨ ch'.phase = ch.phase ∧ ch'.commands = ch.commands ++ orders
    ∧ ch'.cancels = ch.cancels ++ cancels

lemma Asks.of_eq (hwritten : ch'.written = ch.written) (htraffic : ch'.traffic = ch.traffic)
    (hphase : ch'.phase = ch.phase) (hcommands : ch'.commands = ch.commands)
    (hcancels : ch'.cancels = ch.cancels) : Asks [] [] ch ch' where
  written := hwritten
  traffic := ⟨ch.traffic.dropped, htraffic⟩
  queues := .inr ⟨hphase, by rw [hcommands, List.append_nil], by rw [hcancels, List.append_nil]⟩

lemma Asks.trans (h : Asks os cs ch ch') (h' : Asks os' cs' ch' ch'') :
    Asks (os ++ os') (cs ++ cs') ch ch'' where
  written := h'.written.trans h.written
  traffic := by
    obtain ⟨n, hn⟩ := h.traffic
    obtain ⟨n', hn'⟩ := h'.traffic
    exact ⟨n', by rw [hn', hn]⟩
  queues := by
    rcases h'.queues with hstop | ⟨hphase', hcommands', hcancels'⟩
    · exact .inl hstop
    · refine h.queues.imp (fun hstop => ?_) fun ⟨hphase, hcommands, hcancels⟩ => ?_
      · rw [isStopped, hphase']
        exact hstop
      · exact ⟨hphase'.trans hphase, by rw [hcommands', hcommands, List.append_assoc],
          by rw [hcancels', hcancels, List.append_assoc]⟩

/-- A number of frames is counted as missed. -/
def Drops (n : Nat) (ch ch' : Channel) : Prop :=
  ch'.traffic.dropped = ch.traffic.dropped + .ofNat n

lemma Drops.of_eq (h : ch'.traffic = ch.traffic) : Drops 0 ch ch' := by
  rw [Drops, h]
  exact (UInt64.add_zero _).symm

lemma Drops.trans {m n : Nat} (h : Drops m ch ch') (h' : Drops n ch' ch'') :
    Drops (m + n) ch ch'' := by
  rw [Drops] at *
  rw [h', h, UInt64.ofNat_add, UInt64.add_assoc]

/-- All that callers and consumers do to a connection: commands and cancels are queued, and one
listener comes, goes or reads. -/
structure Uses (o : Option ListenerId) (orders : List Command) (cancels : List CallId)
    (rs : List Fanout.Reading) (ch ch' : Channel) : Prop
    extends Spares o ch ch', Asks orders cancels ch ch' where
  dropped : Drops (Fanout.missed rs) ch ch'

namespace Uses

/-- Tickets and mailboxes are the callers' own, and so is the line that they stand in. -/
lemma hidden (h : ch' = { ch with
      line := ch'.line
      mailboxes := ch'.mailboxes
      nextTicket := ch'.nextTicket }) : Uses o [] [] [] ch ch' := by
  rw [h]
  exact ⟨.of_eq rfl rfl rfl rfl rfl rfl, .of_eq rfl rfl rfl rfl rfl, .of_eq rfl⟩

lemma refl (ch : Channel) : Uses o [] [] [] ch ch := hidden rfl

lemma trans (h : Uses o os cs rs ch ch') (h' : Uses o os' cs' rs' ch' ch'') :
    Uses o (os ++ os') (cs ++ cs') (rs ++ rs') ch ch'' where
  toSpares := h.toSpares.trans h'.toSpares
  toAsks := h.toAsks.trans h'.toAsks
  dropped := by
    rw [Fanout.missed_append]
    exact h.dropped.trans h'.dropped

/-- Nothing more is asked in the end. -/
lemma behind (h : Uses o os cs rs ch ch') (h' : Uses o [] [] [] ch' ch'') :
    Uses o os cs rs ch ch'' := by
  simpa only [List.append_nil] using h.trans h'

end Uses

/-! ### Queues and listeners -/

/-- The command that is queued, if it is. -/
def accepts (t : Ticket) (c : Command) (ch : Channel) : List Command :=
  if (ch.enqueue t c).1 = .queued then [c] else []

lemma uses_enqueue (t : Ticket) (c : Command) (ch : Channel) :
    Uses o (ch.accepts t c) [] [] ch (ch.enqueue t c).2 := by
  rcases enqueue_cases t c ch with ⟨hq, -, heq⟩ | ⟨hq, line, heq⟩
  · rw [heq, accepts, if_pos hq]
    exact ⟨.of_eq rfl rfl rfl rfl rfl rfl,
      ⟨rfl, ⟨_, rfl⟩, .inr ⟨rfl, rfl, (List.append_nil _).symm⟩⟩, .of_eq rfl⟩
  · have hnot : (ch.enqueue t c).1 ≠ .queued := by
      rcases hq with ⟨hq, -⟩ | ⟨hq, -⟩ <;> simp [hq]
    rw [heq, accepts, if_neg hnot]
    exact .hidden rfl

lemma uses_leave (l : ListenerId) (ch : Channel) : Uses (some l) [] [] [] ch (ch.leave l) where
  toSpares := ⟨rfl, ch.fanout.keeps_leave l, .inr ⟨rfl, rfl⟩, rfl, rfl⟩
  toAsks := .of_eq rfl rfl rfl rfl rfl
  dropped := .of_eq rfl

lemma uses_listen (ch : Channel) :
    Uses (some ⟨ch.fanout.nextListener⟩) [] [] [] ch ch.listen.2 where
  toSpares := ⟨rfl, ch.fanout.keeps_listen, .inr ⟨rfl, rfl⟩, rfl, rfl⟩
  toAsks := .of_eq rfl rfl rfl rfl rfl
  dropped := .of_eq rfl

/-- A reading is counted, and the listener moves. -/
lemma readFrame_channel (l : ListenerId) (ch : Channel) :
    (ch.readFrame l).2 = { ch with
      fanout := (ch.fanout.read l).2
      traffic := ch.traffic.countDropped (.ofNat (ch.fanout.read l).1.skipped) } := by
  unfold readFrame
  dsimp only
  split
  all_goals
    rename_i hreading
    rw [hreading]
    rfl

lemma uses_readFrame (l : ListenerId) (ch : Channel) :
    Uses (some l) [] [] [(ch.fanout.read l).1] ch (ch.readFrame l).2 := by
  rw [readFrame_channel]
  exact ⟨⟨rfl, ch.fanout.keeps_read l, .inr ⟨rfl, rfl⟩, rfl, rfl⟩,
    ⟨rfl, ⟨_, rfl⟩, .inr ⟨rfl, (List.append_nil _).symm, (List.append_nil _).symm⟩⟩, rfl⟩

/-- The readings of whoever seeks a server state. -/
def seekReadings (l : ListenerId) : Nat → Channel → List Fanout.Reading
  | 0, _ => []
  | fuel + 1, ch => (ch.fanout.read l).1 :: match ch.readFrame l with
    | (none, _) => []
    | (some (.state _), _) => []
    | (some _, ch) => seekReadings l fuel ch

lemma uses_seekState (l : ListenerId) (fuel : Nat) (ch : Channel) :
    Uses (some l) [] [] (seekReadings l fuel ch) ch (ch.seekState l fuel).2 := by
  induction fuel generalizing ch with
  | zero => exact .refl ch
  | succ fuel ih =>
    have hread := uses_readFrame l ch
    unfold seekReadings seekState
    generalize ch.readFrame l = result at hread ⊢
    obtain ⟨_ | frame, ch'⟩ := result
    · exact hread
    · cases frame with
      | state s => exact hread
      | _ => exact hread.trans (ih ch')

end Channel

/-! ### Exchanges -/

namespace Exchange

/-- The command that is queued where a request is looked after. -/
def orders (x : Exchange) (ch : Channel) : List Command :=
  match x.stage with
  | .queueing => ch.accepts x.ticket x.command
  | .awaiting _ => []

lemma uses_await (span : Time.Span) (now deadline : Nat) (x : Exchange) (ch : Channel) :
    ch.Uses o [] [] [] (x.await span now deadline ch).2 := by
  rcases await_cases span now deadline x ch with h | ⟨e, h, -⟩ | ⟨r, h, -⟩
  all_goals
    rw [h]
    exact .hidden rfl

lemma uses_poll (span : Time.Span) (now : Nat) (x : Exchange) (ch : Channel) :
    ch.Uses o (x.orders ch) [] [] (x.poll span now ch).2 := by
  rw [poll, orders]
  cases x.stage with
  | awaiting deadline => exact uses_await ..
  | queueing =>
    have hqueue := ch.uses_enqueue (o := o) x.ticket x.command
    dsimp only
    split
    all_goals
      rename_i heq
      rw [heq] at hqueue
    · exact hqueue.behind (uses_await ..)
    · exact hqueue
    · exact hqueue.behind (.hidden rfl)

end Exchange

/-! ### Subscriptions -/

namespace Subscription

/-- The call that is to be cancelled when a subscription is let go, if any. -/
def loses (sub : Subscription) (ch : Channel) : List CallId :=
  if sub.state = .subscribed ∧ ch.isStopped = false then [sub.call] else []

lemma uses_release (sub : Subscription) (ch : Channel) :
    ch.Uses o [] (sub.loses ch) [] (sub.release ch).2 := by
  rw [release, loses]
  split
  case isTrue hsubscribed =>
    obtain ⟨hstate, hrun⟩ := hsubscribed
    rw [if_neg (not_not.mpr hstate)]
    dsimp only
    split
    case isTrue hstop => cases hrun.symm.trans hstop
    case isFalse =>
      exact ⟨.of_eq rfl rfl rfl rfl rfl rfl,
        ⟨rfl, ⟨_, rfl⟩, .inr ⟨rfl, (List.append_nil _).symm, rfl⟩⟩, .of_eq rfl⟩
  case isFalse hnot =>
    split
    case isTrue => exact .hidden rfl
    case isFalse hstate =>
      dsimp only
      split
      case isTrue => exact .hidden rfl
      case isFalse hrun =>
        exact absurd ⟨not_not.mp hstate, eq_false_of_ne_true hrun⟩ hnot

lemma uses_poll (sub : Subscription) (ch : Channel) :
    ch.Uses o [] [] [] (sub.poll ch).2.2 := by
  rw [poll]
  split
  · exact .refl ch
  · split <;> exact .hidden rfl

end Subscription

lemma Stream.uses_poll (st : Stream) (ch : Channel) : ch.Uses o [] [] [] (st.poll ch).2.2 := by
  have hpolls := st.polls ch
  generalize st.poll ch = result at hpolls ⊢
  cases hpolls <;> exact .hidden rfl

/-! ### Operations -/

namespace Operation

/-- The listener of a caller who asks for the server state. -/
def listener? : Operation → Option ListenerId
  | .askState _ l | .awaitState l _ => some l
  | _ => none

/-- The command that is queued where an operation is looked after. -/
def orders (op : Operation) (ch : Channel) : List Command :=
  match op with
  | .send x | .subscribe _ x | .stream _ _ x => x.orders ch
  | .askState t _ => ch.accepts t (.send .state none)
  | .close t => ch.accepts t .close
  | .refused _ | .fetch .. | .awaitState .. | .awaitStop _ => []

/-- The call that is to be cancelled where a stream does not get its history. -/
def unfetched (s : Setting) (now : Nat) (plan : Plan) (sub : Subscription) (due : Nat)
    (ch : Channel) : List CallId :=
  if now < due then []
  else match viewer s plan with
    | .ok _ => []
    | .error _ => sub.loses ch

/-- The call that is to be cancelled where an operation is looked after. -/
def loses (s : Setting) (now : Nat) (op : Operation) (ch : Channel) : List CallId :=
  match op with
  | .stream plan topic x => match x.poll s.config.replyTimeout now ch with
    | (.ready (.ok reply), ch) => match openedBy topic x reply ch with
      | (.ok sub, ch) =>
        unfetched s now plan sub (if needsHistory plan then now + s.history.delay.nanos else now) ch
      | (.error _, _) => []
    | _ => []
  | .fetch plan sub due => unfetched s now plan sub due ch
  | _ => []

/-- The readings of a caller who looks for the server state. -/
def readings (op : Operation) (ch : Channel) : List (ListenerId × Fanout.Reading) :=
  match op with
  | .askState t l => match ch.enqueue t (.send .state none) with
    | (.queued, ch) => (ch.seekReadings l (ch.fanout.recent.length + 1)).map (l, ·)
    | _ => []
  | .awaitState l _ => (ch.seekReadings l (ch.fanout.recent.length + 1)).map (l, ·)
  | _ => []

lemma uses_pollFetch (s : Setting) (now : Nat) (plan : Plan) (sub : Subscription) (due : Nat)
    (ch : Channel) : ch.Uses o [] (unfetched s now plan sub due ch) []
      (pollFetch s now plan sub due ch).2 := by
  rw [pollFetch, unfetched]
  split
  · exact .refl ch
  · cases viewer s plan with
    | ok v => exact .refl ch
    | error e => exact sub.uses_release ch

lemma uses_pollState (s : Setting) (now : Nat) (l : ListenerId) (deadline : Nat)
    (ch : Channel) :
    ch.Uses (some l) [] [] (ch.seekReadings l (ch.fanout.recent.length + 1))
      (pollState s now l deadline ch).2 := by
  have hseek := ch.uses_seekState l (ch.fanout.recent.length + 1)
  rw [pollState]
  split
  all_goals
    rename_i heq
    rw [heq] at hseek
  · exact hseek.behind (Channel.uses_leave ..)
  · split
    · exact hseek.behind (Channel.uses_leave ..)
    · exact hseek

lemma uses_pollStop (now deadline : Nat) (ch : Channel) :
    ch.Uses o [] [] [] (pollStop now deadline ch).2 := by
  rw [pollStop]
  split
  · exact .refl ch
  · split
    · exact ⟨⟨rfl, .refl _ _, .inl rfl, rfl, rfl⟩, ⟨rfl, ⟨_, rfl⟩, .inl rfl⟩, .of_eq rfl⟩
    · exact .refl ch

lemma uses_poll (s : Setting) (now : Nat) (op : Operation) (ch : Channel) :
    ch.Uses op.listener? (op.orders ch) (op.loses s now ch) ((op.readings ch).map (·.2))
      (op.poll s now ch).2 := by
  cases op with
  | send x =>
    have hpoll := x.uses_poll (o := none) s.config.replyTimeout now ch
    simp only [poll, orders, loses]
    split
    all_goals
      rename_i heq
      rw [heq] at hpoll
      exact hpoll
  | refused request => exact .refl ch
  | subscribe topic x =>
    have hpoll := x.uses_poll (o := none) s.config.replyTimeout now ch
    simp only [poll, openedBy, orders, loses]
    split
    all_goals
      rename_i heq
      rw [heq] at hpoll
    · exact hpoll
    · split
      · exact hpoll
      · exact hpoll.behind (.hidden rfl)
    · exact hpoll
  | stream plan topic x =>
    have hpoll := x.uses_poll (o := none) s.config.replyTimeout now ch
    simp only [poll, orders, loses]
    generalize x.poll s.config.replyTimeout now ch = result at hpoll ⊢
    obtain ⟨found, ch'⟩ := result
    cases found with
    | pending x' => exact hpoll
    | ready result => cases result with
      | error e => exact hpoll
      | ok reply =>
        dsimp only
        rw [openedBy]
        cases reply.call with
        | some c =>
          have hfetch := uses_pollFetch (o := none) s now plan (.opened c topic x.ticket)
            (if needsHistory plan then now + s.history.delay.nanos else now) ch'
          have hboth := hpoll.trans hfetch
          rwa [List.append_nil, List.nil_append] at hboth
        | none => exact hpoll.behind (.hidden rfl)
  | fetch plan sub due => exact uses_pollFetch ..
  | askState t l =>
    have hqueue := ch.uses_enqueue (o := some l) t (.send .state none)
    simp only [poll, orders, loses, readings]
    generalize ch.enqueue t (.send .state none) = result at hqueue ⊢
    obtain ⟨queueing, ch'⟩ := result
    cases queueing with
    | queued =>
      have hboth := hqueue.trans (uses_pollState s now l (now + s.config.replyTimeout.nanos) ch')
      dsimp only
      rw [Fanout.map_snd_mk]
      rwa [List.append_nil] at hboth
    | full => exact hqueue
    | closed => exact hqueue.behind (Channel.uses_leave ..)
  | awaitState l deadline =>
    simp only [readings]
    rw [Fanout.map_snd_mk]
    exact uses_pollState ..
  | close t =>
    have hqueue := ch.uses_enqueue (o := none) t .close
    simp only [poll, orders, loses]
    split
    all_goals
      rename_i heq
      rw [heq] at hqueue
    · exact hqueue
    · exact hqueue.behind (uses_pollStop ..)
  | awaitStop deadline => exact uses_pollStop ..

/-- The call that is to be cancelled where an operation is given up. -/
def forgoes (op : Operation) (ch : Channel) : List CallId :=
  match op with
  | .fetch _ sub _ => sub.loses ch
  | _ => []

lemma uses_abandon (op : Operation) (ch : Channel) :
    ch.Uses op.listener? [] (op.forgoes ch) [] (op.abandon ch) := by
  cases op with
  | fetch plan sub due => exact sub.uses_release ch
  | askState t l =>
    have hline : ch.Uses (some l) [] [] [] (ch.leaveLine t) := .hidden rfl
    exact hline.behind (Channel.uses_leave ..)
  | awaitState l deadline => exact Channel.uses_leave ..
  | _ => exact .hidden rfl

end Operation

/-! ### Parties -/

namespace Party

/-- The listener of a party that asks for the server state. -/
def listener? : Party → Option ListenerId
  | .calling op => op.listener?
  | _ => none

/-- The call that is to be cancelled where a consumer leaves. -/
def loses (p : Party) (ch : Channel) : List CallId :=
  match p with
  | .calling _ => []
  | .holding sub => sub.loses ch
  | .streaming st => st.subscription.loses ch

lemma uses_read (p : Party) (ch : Channel) : ch.Uses o [] [] [] (p.read ch).2 := by
  cases p with
  | calling op => exact .refl ch
  | holding sub => exact sub.uses_poll ch
  | streaming st => exact st.uses_poll ch

lemma uses_release (p : Party) (ch : Channel) : ch.Uses o [] (p.loses ch) [] (p.release ch) := by
  cases p with
  | calling op => exact .refl ch
  | holding sub => exact sub.uses_release ch
  | streaming st => exact st.subscription.uses_release ch

end Party

/-! ### Acts -/

namespace System

/-- The text that the server sends with an act. -/
def arriving (a : Act) (s : System) : List String :=
  match a with
  | .push text => if (s.channel.push text).1 = .accepted then [text] else []
  | _ => []

/-- The listener that comes, goes or reads with an act. -/
def moved (a : Act) (s : System) : Option ListenerId :=
  match a with
  | .askState | .listen => some ⟨s.channel.fanout.nextListener⟩
  | .look t | .abandon t => (s.parties.find? t).bind Party.listener?
  | .hear l | .leave l => if l ∈ s.listeners then some l else none
  | _ => none

/-- The command that is queued with an act. -/
def orders (a : Act) (s : System) : List Command :=
  match a with
  | .look t => match s.parties.find? t with
    | some (.calling op) => op.orders s.channel
    | _ => []
  | _ => []

/-- The call that is queued with an act to be cancelled: its subscription is let go by its consumer,
or by a caller who has not got the history that it needs. -/
def loses (a : Act) (s : System) : List CallId :=
  match a with
  | .look t => match s.parties.find? t with
    | some (.calling op) => op.loses s.setting s.now s.channel
    | _ => []
  | .abandon t => match s.parties.find? t with
    | some (.calling op) => op.forgoes s.channel
    | _ => []
  | .release t => match s.parties.find? t with
    | some p => p.loses s.channel
    | none => []
  | _ => []

/-- The readings of an act, with the listener that they are for. -/
def readings (a : Act) (s : System) : List (ListenerId × Fanout.Reading) :=
  match a with
  | .look t => match s.parties.find? t with
    | some (.calling op) => op.readings s.channel
    | _ => []
  | .hear l => if l ∈ s.listeners then [(l, (s.channel.fanout.read l).1)] else []
  | _ => []

/-- An act that is not the dispatcher's adds to the texts of the server, and leaves all listeners
but one alone. The connection is in use as long as somebody holds it. -/
structure Adds (s : System) (o : Option ListenerId) (texts : List String) (s' : System) :
    Prop where
  held : s'.connected = true → s.connected = true ∧ s'.channel.held = s.channel.held
  fanout : s.channel.fanout.Keeps o s'.channel.fanout
  texts : s'.channel.isStopped = true
    ∨ s'.channel.phase = s.channel.phase ∧ s'.channel.inbound = s.channel.inbound ++ texts
  /-- What the server has taken stays taken. -/
  taken : s.channel.taken ≤ s'.channel.taken
  reads : s'.channel.serverReads = true → s.channel.serverReads = true

/-- What an act that is not the dispatcher's comes to. -/
structure Uses (s : System) (o : Option ListenerId) (texts : List String) (orders : List Command)
    (cancels : List CallId) (rs : List Fanout.Reading) (s' : System) : Prop
    extends Adds s o texts s', Channel.Asks orders cancels s.channel s'.channel where
  dropped : Channel.Drops (Fanout.missed rs) s.channel s'.channel

namespace Uses

lemma of_channel (h : s.channel.Uses o os cs rs s'.channel)
    (hconnected : s'.connected = true → s.connected = true) : Uses s o [] os cs rs s' where
  held := fun hc => ⟨hconnected hc, h.held⟩
  fanout := h.fanout
  texts := h.texts.imp_right fun ⟨hphase, hinbound⟩ =>
    ⟨hphase, hinbound.trans (List.append_nil _).symm⟩
  taken := Nat.le_of_eq h.server.1.symm
  reads := h.server.2.symm.trans
  toAsks := h.toAsks
  dropped := h.dropped

lemma refl (s : System) : Uses s o [] [] [] [] s := of_channel (.refl _) id

/-- Where nobody uses the connection any more, the dispatcher learns it, and nobody else does. -/
lemma dropUnused {texts : List String} (h : Uses s o texts os cs rs s') :
    Uses s o texts os cs rs s'.dropUnused := by
  unfold System.dropUnused
  split
  · exact h
  case isFalse hunused =>
    exact { toAsks := ⟨h.written, h.traffic, h.queues⟩, dropped := h.dropped, fanout := h.fanout,
            texts := h.texts, taken := h.taken, reads := h.reads,
            held := fun hc => absurd (by rw [hc]; rfl) hunused }

end Uses

lemma uses_launch (start : Channel → Operation × Channel)
    (hstart : s.channel.Uses o [] [] [] (start s.channel).2) :
    Uses s o [] [] [] [] (s.launch start) := by
  unfold launch
  split
  · split
    · exact .refl s
    case h_2 heq =>
      rw [heq] at hstart
      exact .of_channel hstart id
  · exact .refl s

/-- What all but the dispatcher do. -/
theorem uses_act {a : Act} (ha : a ≠ .dispatch) (s : System) :
    Uses s (s.moved a) (s.arriving a) (s.orders a) (s.loses a) ((s.readings a).map (·.2))
      (s.act a) := by
  cases a with
  | send request => exact uses_launch (Operation.startSend request) (.hidden rfl)
  | subscribe request =>
    refine uses_launch _ ?_
    rw [Operation.startSubscribe]
    split <;> exact .hidden rfl
  | stream plan =>
    refine uses_launch _ ?_
    rw [Operation.startStream]
    dsimp only
    split <;> exact .hidden rfl
  | askState =>
    exact uses_launch Operation.startState (s.channel.uses_listen.behind (.hidden rfl))
  | close =>
    rw [act, close]
    split
    · exact .of_channel (.refl _) (by rintro ⟨⟩)
    · have hlaunch := uses_launch (s := s) (o := none) Operation.startClose (.hidden rfl)
      exact { hlaunch with held := by rintro ⟨⟩ }
  | look t =>
    simp only [act, look, moved, orders, loses, readings]
    cases s.parties.find? t with
    | none => exact .refl s
    | some p => cases p with
      | calling op =>
        have hpoll := op.uses_poll s.setting s.now s.channel
        dsimp only
        split
        all_goals
          rename_i heq
          rw [heq] at hpoll
        · exact .of_channel hpoll id
        · exact .dropUnused (.of_channel hpoll id)
      | holding | streaming => exact .refl s
  | abandon t =>
    simp only [act, abandon, moved, orders, loses]
    cases s.parties.find? t with
    | none => exact .refl s
    | some p => cases p with
      | calling op => exact .dropUnused (.of_channel (op.uses_abandon s.channel) id)
      | holding | streaming => exact .refl s
  | read t =>
    simp only [act, read]
    split
    · exact .refl s
    · exact .refl s
    case h_3 p _ _ => exact .of_channel (p.uses_read s.channel) id
  | release t =>
    simp only [act, release, loses]
    cases s.parties.find? t with
    | none => exact .refl s
    | some p => cases p with
      | calling op => exact .refl s
      | holding sub => exact .of_channel (Party.uses_release (.holding sub) s.channel) id
      | streaming st => exact .of_channel (Party.uses_release (.streaming st) s.channel) id
  | listen =>
    rw [act, listen]
    split
    · exact .of_channel (Channel.uses_listen _) id
    · exact .refl s
  | hear l =>
    simp only [act, moved, readings]
    split
    · rw [(Channel.pollFrame_unheard l s.channel).2]
      exact .of_channel (Channel.uses_readFrame l s.channel) id
    · exact .refl s
  | leave l =>
    simp only [act, moved]
    split
    · exact .of_channel (Channel.uses_leave l s.channel) id
    · exact .refl s
  | disconnect => exact .dropUnused (.of_channel (.refl _) (by rintro ⟨⟩))
  | dispatch => exact absurd rfl ha
  | push text =>
    simp only [act, arriving, Channel.push]
    split
    · exact .refl s
    · split
      · exact .refl s
      · split
        · exact { Uses.refl s with texts := .inr ⟨rfl, rfl⟩ }
        · exact .refl s
  | hangUp => exact { Uses.refl s with }
  | cutWriter => exact { Uses.refl s with reads := by rintro ⟨⟩ }
  | take max => exact { Uses.refl s with taken := Nat.le_add_right .. }
  | advance | archive => exact .of_channel (.hidden rfl) id

lemma adds_act {a : Act} (ha : a ≠ .dispatch) (s : System) :
    Adds s (s.moved a) (s.arriving a) (s.act a) :=
  (uses_act ha s).toAdds

/-- All but the dispatcher only queue commands and cancels. -/
theorem asks_act {a : Act} (ha : a ≠ .dispatch) (s : System) :
    s.channel.Asks (s.orders a) (s.loses a) (s.act a).channel :=
  (uses_act ha s).toAsks

end System

end GroundLink.Connection
