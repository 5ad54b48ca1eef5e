import GroundLink.Proofs.Connection.System

/-!
# What callers and consumers do not notice

A change of a connection that leaves alone what callers and consumers look at, and what they change
themselves. They do the same before it and after it. The tables of requests, which they look at to
see whether something may still come, may be changed as well, as long as they show the same to those
who look.
-/

namespace GroundLink.Connection

open Protocol

/-- A change of a connection that callers and consumers do not notice. -/
structure Channel.Unnoticed (g : Channel → Channel) : Prop where
  isStopped : ∀ ch, (g ch).isStopped = ch.isStopped
  commandRoom : ∀ ch, (g ch).commandRoom = ch.commandRoom
  commands : ∀ ch, (g ch).commands = ch.commands
  line : ∀ ch, (g ch).line = ch.line
  cancels : ∀ ch, (g ch).cancels = ch.cancels
  mailboxes : ∀ ch, (g ch).mailboxes = ch.mailboxes
  nextTicket : ∀ ch, (g ch).nextTicket = ch.nextTicket
  map_commands : ∀ (ch : Channel) (f : List Command → List Command),
    { g ch with commands := f (g ch).commands } = g { ch with commands := f ch.commands }
  map_line : ∀ (ch : Channel) (f : List Ticket → List Ticket),
    { g ch with line := f (g ch).line } = g { ch with line := f ch.line }
  map_cancels : ∀ (ch : Channel) (f : List CallId → List CallId),
    { g ch with cancels := f (g ch).cancels } = g { ch with cancels := f ch.cancels }
  map_mailboxes : ∀ (ch : Channel) (f : Table Ticket Mailbox → Table Ticket Mailbox),
    { g ch with mailboxes := f (g ch).mailboxes } = g { ch with mailboxes := f ch.mailboxes }
  map_nextTicket : ∀ (ch : Channel) (f : Nat → Nat),
    { g ch with nextTicket := f (g ch).nextTicket } = g { ch with nextTicket := f ch.nextTicket }

variable {g : Channel → Channel} (hg : Channel.Unnoticed g) (ch : Channel)

include hg

namespace Channel.Unnoticed

lemma mailbox (t : Ticket) : (g ch).mailbox t = ch.mailbox t := by
  rw [Channel.mailbox, hg.mailboxes, Channel.mailbox]

lemma updateMailbox (t : Ticket) (f : Mailbox → Mailbox) :
    (g ch).updateMailbox t f = g (ch.updateMailbox t f) :=
  hg.map_mailboxes ch (·.modify t f)

lemma forsake (t : Ticket) : (g ch).forsake t = g (ch.forsake t) := hg.updateMailbox ch t _

lemma leaveLine (t : Ticket) : (g ch).leaveLine t = g (ch.leaveLine t) :=
  hg.map_line ch (·.filter (· ≠ t))

lemma isNext (t : Ticket) : (g ch).isNext t = ch.isNext t := by
  rw [Channel.isNext, hg.line, Channel.isNext]

lemma newTicket : (g ch).newTicket = (ch.newTicket.1, g ch.newTicket.2) :=
  Prod.ext (congrArg Ticket.mk (hg.nextTicket ch)) (hg.map_nextTicket ch (· + 1))

lemma enqueue (t : Ticket) (c : Command) :
    (g ch).enqueue t c = ((ch.enqueue t c).1, g (ch.enqueue t c).2) := by
  have hroom : ((g ch).commands.length < (g ch).commandRoom && (g ch).isNext t)
      = (ch.commands.length < ch.commandRoom && ch.isNext t) := by
    rw [hg.commands, hg.commandRoom, hg.isNext]
  have hqueued : { (g ch).leaveLine t with commands := (g ch).commands ++ [c] }
      = g { ch.leaveLine t with commands := ch.commands ++ [c] } := by
    have hleft := hg.map_commands (ch.leaveLine t) (· ++ [c])
    rw [← hg.leaveLine] at hleft
    exact hleft
  unfold Channel.enqueue
  simp only [hg.isStopped, hroom]
  split
  · exact congrArg _ (hg.leaveLine ch t)
  · split
    · exact congrArg _ hqueued
    · rw [show (g ch).line.elem t = ch.line.elem t by rw [hg.line]]
      split
      · rfl
      · exact congrArg _ (hg.map_line ch (· ++ [t]))

lemma keep (s : Subscription) (events : List Update) :
    s.keep events (g ch) = g (s.keep events ch) := hg.updateMailbox ch s.ticket _

end Channel.Unnoticed

/-! ### Callers -/

namespace Exchange

lemma start_unnoticed (request : Request) (routed : Bool) :
    start request routed (g ch)
      = ((start request routed ch).1, g (start request routed ch).2) := by
  rw [start, hg.newTicket]
  exact congrArg _ (hg.map_mailboxes _ (·.insert ch.newTicket.1 (.start routed)))

variable {x : Exchange} (timeout : Time.Span) (now : Nat)

lemma await_unnoticed (deadline : Nat)
    (hmay : (g ch).mayAnswer x.ticket = ch.mayAnswer x.ticket) :
    x.await timeout now deadline (g ch)
      = ((x.await timeout now deadline ch).1, g (x.await timeout now deadline ch).2) := by
  unfold await
  rw [hmay, hg.mailbox, hg.forsake, hg.updateMailbox]
  cases (ch.mailbox x.ticket).reply with
  | some r => cases hr : r.rejection <;> simp only [hr]
  | none =>
    dsimp only
    split
    · rfl
    · split <;> rfl

/-- An exchange looks at the table of pending requests only for its own. -/
lemma poll_unnoticed
    (hpending : ∀ ch', ch'.pending = ch.pending → (g ch').pending.any (·.2.ticket = x.ticket)
      = ch'.pending.any (·.2.ticket = x.ticket)) :
    x.poll timeout now (g ch) = ((x.poll timeout now ch).1, g (x.poll timeout now ch).2) := by
  have hmay : ∀ ch', ch'.pending = ch.pending →
      (g ch').mayAnswer x.ticket = ch'.mayAnswer x.ticket := by
    intro ch' hch'
    rw [Channel.mayAnswer, hg.commands, hpending ch' hch', Channel.mayAnswer]
  unfold poll
  cases x.stage with
  | awaiting deadline => exact await_unnoticed hg ch timeout now deadline (hmay ch rfl)
  | queueing =>
    have hkept : (ch.enqueue x.ticket x.command).2.pending = ch.pending := by
      unfold Channel.enqueue
      split
      · rfl
      · split
        · rfl
        · split <;> rfl
    dsimp only
    rw [hg.enqueue]
    generalize ch.enqueue x.ticket x.command = result at hkept
    obtain ⟨q, ch'⟩ := result
    cases q with
    | queued => exact await_unnoticed hg ch' timeout now _ (hmay ch' hkept)
    | full => rfl
    | closed => exact congrArg (Poll.ready _, ·) (hg.forsake ch' x.ticket)

lemma queueNotes_unnoticed : x.queueNotes now (g ch) = x.queueNotes now ch := by
  rw [queueNotes, hg.enqueue, queueNotes]

lemma abandon_unnoticed : x.abandon (g ch) = g (x.abandon ch) := by
  rw [abandon, hg.leaveLine, hg.forsake, abandon]

end Exchange

lemma Subscription.release_unnoticed (sub : Subscription) :
    sub.release (g ch) = ((sub.release ch).1, g (sub.release ch).2) := by
  unfold release
  split
  · rfl
  · dsimp only
    rw [hg.updateMailbox, hg.isStopped]
    split
    · rfl
    · exact congrArg _ (hg.map_cancels _ (· ++ [sub.call]))

namespace Operation

lemma startSend_unnoticed (request : Request) :
    startSend request (g ch) = ((startSend request ch).1, g (startSend request ch).2) := by
  simp only [startSend, Exchange.start_unnoticed hg]

lemma startSubscribe_unnoticed (request : Request) :
    startSubscribe request (g ch)
      = ((startSubscribe request ch).1, g (startSubscribe request ch).2) := by
  unfold startSubscribe
  split
  · rfl
  · simp only [Exchange.start_unnoticed hg]

lemma startStream_unnoticed (config : Client.Config) (plan : Plan) :
    startStream config plan (g ch)
      = ((startStream config plan ch).1, g (startStream config plan ch).2) := by
  unfold startStream
  dsimp only
  split
  · rfl
  · simp only [Exchange.start_unnoticed hg]

lemma startClose_unnoticed : startClose (g ch) = ((startClose ch).1, g (startClose ch).2) := by
  simp only [startClose, hg.newTicket]

lemma openedBy_unnoticed (topic : Topic) (x : Exchange) (reply : Reply) :
    openedBy topic x reply (g ch)
      = ((openedBy topic x reply ch).1, g (openedBy topic x reply ch).2) := by
  unfold openedBy
  split
  · rfl
  · rw [hg.forsake]

lemma pollFetch_unnoticed (s : Setting) (now : Nat) (plan : Plan) (sub : Subscription) (due : Nat) :
    pollFetch s now plan sub due (g ch)
      = ((pollFetch s now plan sub due ch).1, g (pollFetch s now plan sub due ch).2) := by
  unfold pollFetch
  split
  · rfl
  · split
    · rfl
    · rw [Subscription.release_unnoticed hg]

/-- A request, or what comes of it, looks at the table of pending requests only for its own. -/
lemma poll_unnoticed (s : Setting) (now : Nat) {op : Operation} (hop : op.isRequest = true)
    (hpending : ∀ x, op.exchange? = some x → ∀ ch', ch'.pending = ch.pending →
      (g ch').pending.any (·.2.ticket = x.ticket) = ch'.pending.any (·.2.ticket = x.ticket)) :
    op.poll s now (g ch) = ((op.poll s now ch).1, g (op.poll s now ch).2) := by
  cases op with
  | send x =>
    simp only [poll]
    rw [x.poll_unnoticed hg ch _ now (hpending x rfl)]
    obtain ⟨_ | (e | r), ch'⟩ := x.poll s.config.replyTimeout now ch <;> rfl
  | subscribe topic x =>
    simp only [poll]
    rw [x.poll_unnoticed hg ch _ now (hpending x rfl)]
    obtain ⟨_ | (e | r), ch'⟩ := x.poll s.config.replyTimeout now ch
    · rfl
    · rfl
    · dsimp only
      rw [openedBy_unnoticed hg]
  | stream plan topic x =>
    simp only [poll]
    rw [x.poll_unnoticed hg ch _ now (hpending x rfl)]
    obtain ⟨_ | (e | r), ch'⟩ := x.poll s.config.replyTimeout now ch
    · rfl
    · rfl
    · dsimp only
      rw [openedBy_unnoticed hg]
      obtain ⟨e | sub, ch''⟩ := openedBy topic x r ch'
      · rfl
      · exact pollFetch_unnoticed hg ch'' ..
  | fetch plan sub due => exact pollFetch_unnoticed hg ch ..
  | refused | askState | awaitState | close | awaitStop => cases hop

lemma abandon_unnoticed {op : Operation} (hop : op.isRequest = true) :
    op.abandon (g ch) = g (op.abandon ch) := by
  cases op with
  | send x | subscribe _ x | stream _ _ x => exact x.abandon_unnoticed hg ch
  | fetch plan sub due => exact congrArg Prod.snd (sub.release_unnoticed hg ch)
  | refused | askState | awaitState | close | awaitStop => cases hop

end Operation

/-! ### Consumers -/

section

variable {ch}

omit hg in
lemma Subscription.await_unnoticed {α : Type} {sub : Subscription}
    (hmay : (g ch).mayDeliver sub.ticket = ch.mayDeliver sub.ticket) :
    sub.await (α := α) (g ch) = sub.await ch := by
  rw [await, hmay, await]

lemma Subscription.poll_unnoticed (sub : Subscription)
    (hmay : (g ch).mayDeliver sub.ticket = ch.mayDeliver sub.ticket) :
    sub.poll (g ch) = ((sub.poll ch).1, (sub.poll ch).2.1, g (sub.poll ch).2.2) := by
  unfold poll
  rw [hg.mailbox]
  split
  · rfl
  · split
    · rw [hg.keep]
    · rw [await_unnoticed hmay]

lemma Stream.poll_unnoticed (st : Stream)
    (hmay : ∀ ch', ch'.pending = ch.pending → ch'.routes = ch.routes → ch'.commands = ch.commands →
      (g ch').mayDeliver st.subscription.ticket = ch'.mayDeliver st.subscription.ticket) :
    st.poll (g ch) = ((st.poll ch).1, (st.poll ch).2.1, g (st.poll ch).2.2) := by
  unfold poll
  rw [hg.mailbox]
  cases st.waiting with
  | some item => rfl
  | none =>
    dsimp only
    split
    · rfl
    · generalize st.viewer.next (ch.mailbox st.subscription.ticket).events = result
      obtain ⟨_ | item, viewer, rest⟩ := result
      · have hkept : (g (st.subscription.keep rest ch)).mayDeliver st.subscription.ticket
            = (st.subscription.keep rest ch).mayDeliver st.subscription.ticket :=
          hmay _ rfl rfl rfl
        dsimp only
        rw [hg.keep, Subscription.await_unnoticed hkept]
      · dsimp only
        rw [hg.keep]

end

lemma Party.release_unnoticed (p : Party) : p.release (g ch) = g (p.release ch) := by
  cases p with
  | calling op => rfl
  | holding s => exact congrArg Prod.snd (s.release_unnoticed hg ch)
  | streaming st => exact congrArg Prod.snd (st.subscription.release_unnoticed hg ch)

end GroundLink.Connection
