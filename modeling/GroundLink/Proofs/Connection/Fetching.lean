import GroundLink.Proofs.Connection.Parting
import GroundLink.Proofs.Connection.Showing

/-!
# Fetching earlier history

The streams of commands and of events open their subscriptions first, and fetch the earlier history
thereafter. Where the archive fails, the caller gets its error. Then, and also where the caller
gives up meanwhile, the subscription is let go, and nothing is left of its call. Where the
subscription itself fails, the archive is not asked.
-/

namespace GroundLink.Connection

open Protocol

variable {h : List Note} {t : Ticket} {now : Nat} {ch ch' ch'' : Channel}

/-! ### One mailbox -/

namespace Channel

/-- A change of a connection that touches no route, and no mailbox but one. -/
structure Touches (t : Ticket) (ch ch' : Channel) : Prop where
  isStopped : ch'.isStopped = ch.isStopped
  routes : ch'.routes = ch.routes
  mailbox : ∀ v, v ≠ t → ch'.mailbox v = ch.mailbox v

lemma Touches.refl (t : Ticket) (ch : Channel) : Touches t ch ch := ⟨rfl, rfl, fun _ _ => rfl⟩

lemma Touches.trans (h : Touches t ch ch') (h' : Touches t ch' ch'') : Touches t ch ch'' where
  isStopped := h'.isStopped.trans h.isStopped
  routes := h'.routes.trans h.routes
  mailbox v hv := (h'.mailbox v hv).trans (h.mailbox v hv)

lemma touches_updateMailbox (t : Ticket) (f : Mailbox → Mailbox) (ch : Channel) :
    Touches t ch (ch.updateMailbox t f) where
  isStopped := rfl
  routes := rfl
  mailbox v hv := by simp [Channel.mailbox, updateMailbox, Table.find?_modify_of_ne (Ne.symm hv)]

lemma touches_enqueue (t : Ticket) (c : Command) (ch : Channel) :
    Touches t ch (ch.enqueue t c).2 ∧ (ch.enqueue t c).2.mailbox t = ch.mailbox t := by
  rcases ch.enqueue_cases t c with ⟨-, -, heq⟩ | ⟨-, line, heq⟩
  all_goals
    rw [heq]
    exact ⟨⟨rfl, rfl, fun _ _ => rfl⟩, rfl⟩

end Channel

namespace Exchange

variable (span : Time.Span) (now : Nat) (x : Exchange)

lemma touches_await (deadline : Nat) (ch : Channel) :
    ch.Touches x.ticket (x.await span now deadline ch).2 := by
  rcases x.await_cases span now deadline ch with heq | ⟨e, heq, -⟩ | ⟨r, heq, -⟩ <;> rw [heq]
  · exact .refl ..
  · exact Channel.touches_updateMailbox ..
  · exact Channel.touches_updateMailbox ..

lemma touches_poll (ch : Channel) : ch.Touches x.ticket (x.poll span now ch).2 := by
  rw [poll]
  split
  · exact x.touches_await span now _ ch
  · have hqueue := (Channel.touches_enqueue x.ticket x.command ch).1
    split
    all_goals
      rename_i heq
      rw [heq] at hqueue
    · exact hqueue.trans (x.touches_await span now _ _)
    · exact hqueue
    · exact hqueue.trans (Channel.touches_updateMailbox ..)

variable {span now x}

lemma reply_of_await {deadline : Nat} {r : Reply}
    (hr : (x.await span now deadline ch).1 = .ready (.ok r)) :
    (ch.mailbox x.ticket).reply = some r ∧ r.rejection = none := by
  rcases x.await_cases span now deadline ch with heq | ⟨e, heq, -⟩ | ⟨r', heq, hreply⟩ <;>
    rw [heq] at hr <;> cases hr
  exact hreply

/-- A caller that takes a reply has had it in its mailbox. -/
lemma reply_of_poll {r : Reply} (hr : (x.poll span now ch).1 = .ready (.ok r)) :
    (ch.mailbox x.ticket).reply = some r ∧ r.rejection = none := by
  rw [poll] at hr
  split at hr
  · exact reply_of_await hr
  · have hqueue := (Channel.touches_enqueue x.ticket x.command ch).2
    split at hr
    case h_1 heq =>
      rw [heq] at hqueue
      rw [← hqueue]
      exact reply_of_await hr
    all_goals cases hr

end Exchange

lemma Subscription.touches_release (sub : Subscription) (ch : Channel) :
    ch.Touches sub.ticket (sub.release ch).2 := by
  rw [release]
  split
  · exact .refl ..
  · have hclose := ch.touches_updateMailbox sub.ticket
      fun m => { m with listening := false, events := [] }
    dsimp only
    split
    · exact hclose
    · exact ⟨hclose.isStopped, hclose.routes, hclose.mailbox⟩

/-! ### Fetches -/

/-- The archive answers a stream with an error. -/
inductive History.Fails (history : History) : Plan → Client.Error → Prop
  | commands {e : Client.Error} : history.commands = .error e → Fails history .commands e
  | events {e : Client.Error} : history.events = .error e → Fails history .events e

/-- What goes on while a stream waits for its earlier history. -/
structure Fetch where
  plan : Plan
  subscription : Subscription
  /-- When the archive answers. -/
  due : Nat

namespace Operation

/-- The fetch that goes on when an operation is looked after. -/
def fetch? (s : Setting) (now : Nat) (ch : Channel) : Operation → Option Fetch
  | .fetch plan sub due => some ⟨plan, sub, due⟩
  | .stream plan topic x => match (x.poll s.config.replyTimeout now ch).1 with
    | .ready (.ok reply) => reply.call.map fun c => ⟨plan, .opened c topic x.ticket,
        if needsHistory plan then now + s.history.delay.nanos else now⟩
    | _ => none
  | _ => none

/-- The error with which the subscription of a stream fails when the stream is looked after. -/
def refusal? (s : Setting) (now : Nat) (ch : Channel) : Operation → Option Client.Error
  | .stream _ topic x => match (x.poll s.config.replyTimeout now ch).1 with
    | .pending _ => none
    | .ready (.error e) => some e
    | .ready (.ok reply) => if reply.call = none then some (.missingCall topic.name) else none
  | _ => none

variable {s : Setting} {op : Operation}

lemma viewer_of_fails {plan : Plan} {e : Client.Error} (he : s.history.Fails plan e) :
    viewer s plan = .error e := by
  cases he with
  | commands he | events he =>
    rw [viewer, he]
    rfl

lemma poll_of_fetch {f : Fetch} (hf : op.fetch? s now ch = some f) (hfits : op.Fits t) :
    ∃ ch', ch.Touches t ch'
      ∧ op.poll s now ch = pollFetch s now f.plan f.subscription f.due ch' := by
  cases op with
  | fetch plan sub due =>
    obtain rfl := Option.some.inj hf
    exact ⟨ch, .refl .., rfl⟩
  | stream plan topic x =>
    obtain ⟨rfl, -⟩ := hfits
    have htouches := x.touches_poll s.config.replyTimeout now ch
    simp only [fetch?] at hf
    simp only [poll]
    generalize x.poll s.config.replyTimeout now ch = result at hf htouches
    obtain ⟨found, ch'⟩ := result
    dsimp only at hf
    split at hf
    case h_2 => cases hf
    case h_1 reply =>
      obtain ⟨c, hcall, rfl⟩ := Option.map_eq_some_iff.mp hf
      refine ⟨ch', htouches, ?_⟩
      simp only [openedBy, hcall]
  | _ => cases hf

/-- Where the archive fails, its error is what comes of the stream, and the subscription is let
go. -/
lemma poll_of_failure {f : Fetch} {e : Client.Error} (hf : op.fetch? s now ch = some f)
    (hfits : op.Fits t) (hticket : f.subscription.ticket = t) (hdue : f.due ≤ now)
    (he : s.history.Fails f.plan e) :
    ∃ ch', ch.Touches t ch' ∧ op.poll s now ch = (.ready (.error e), ch') := by
  obtain ⟨ch', htouches, hpoll⟩ := poll_of_fetch hf hfits
  refine ⟨(f.subscription.release ch').2,
    htouches.trans (hticket ▸ f.subscription.touches_release ch'), ?_⟩
  rw [hpoll, pollFetch, if_neg (Nat.not_lt.mpr hdue), viewer_of_fails he]

/-- A stream whose subscription fails does not ask the archive: whatever there is in it, the same
comes of the stream. -/
lemma poll_of_refusal {e : Client.Error} (he : op.refusal? s now ch = some e) (hfits : op.Fits t) :
    ∃ ch', ch.Touches t ch'
      ∧ ∀ history, op.poll { s with history } now ch = (.ready (.error e), ch') := by
  cases op with
  | stream plan topic x =>
    obtain ⟨rfl, -⟩ := hfits
    have htouches := x.touches_poll s.config.replyTimeout now ch
    simp only [refusal?] at he
    simp only [poll]
    generalize x.poll s.config.replyTimeout now ch = result at he htouches
    obtain ⟨found, ch'⟩ := result
    dsimp only at he
    split at he
    · cases he
    · obtain rfl := Option.some.inj he
      exact ⟨ch', htouches, fun _ => rfl⟩
    case h_3 reply =>
      split at he
      case isFalse => cases he
      case isTrue hcall =>
        obtain rfl := Option.some.inj he
        refine ⟨ch'.forsake x.ticket, htouches.trans (Channel.touches_updateMailbox ..),
          fun _ => ?_⟩
        simp only [openedBy, hcall]
  | _ => cases he

end Operation

/-! ### Acts -/

variable {s : System} {op : Operation}

namespace System

/-- Somebody leaves a ticket. The mailboxes and tickets of all others stay as they are, and so do
the routes. -/
structure Withdraws (t : Ticket) (a : Act) (s : System) : Prop where
  own : (s.act a).parties.find? t = none
  others : ∀ v, v ≠ t → (s.act a).parties.find? v = s.parties.find? v
  channel : s.channel.Touches t (s.act a).channel

/-- A fetch comes to nothing with an act: the subscription that is open meanwhile, and the error
that the caller gets, if it gets anything. -/
inductive FetchFails (s : System) (t : Ticket) :
    Act → Subscription → Option Client.Error → Prop
  /-- The archive fails. -/
  | archive {op : Operation} {f : Fetch} {e : Client.Error} :
      s.parties.find? t = some (.calling op) → op.fetch? s.setting s.now s.channel = some f →
      f.due ≤ s.now → s.setting.history.Fails f.plan e →
      FetchFails s t (.look t) f.subscription (some e)
  /-- The caller gives up while it waits. -/
  | abandon {plan : Plan} {sub : Subscription} {due : Nat} :
      s.parties.find? t = some (.calling (.fetch plan sub due)) →
      FetchFails s t (.abandon t) sub none

/-- The error with which the subscription of a stream fails when its caller looks after it. -/
def refusal? (t : Ticket) (s : System) : Option Client.Error :=
  match s.parties.find? t with
  | some (.calling op) => op.refusal? s.setting s.now s.channel
  | _ => none

/-- The subscription of a stream fails with an act, and this is the error that the caller gets. -/
inductive SubscribeFails (s : System) (t : Ticket) : Act → Client.Error → Prop
  | look {e : Client.Error} : s.refusal? t = some e → SubscribeFails s t (.look t) e

lemma withdraws_of_put {a : Act} {ch' : Channel}
    (hact : s.act a = (put t none { s with channel := ch' }).dropUnused)
    (htouches : s.channel.Touches t ch') : s.Withdraws t a := by
  have hdrop : ∀ s' : System, s'.channel.Touches t s'.dropUnused.channel := by
    intro s'
    unfold dropUnused
    split
    · exact .refl ..
    · exact ⟨rfl, rfl, fun _ _ => rfl⟩
  exact {
    own := by rw [hact, (dropUnused_eq _).2.1, find_put, if_pos rfl]
    others := by
      intro v hv
      rw [hact, (dropUnused_eq _).2.1, find_put, if_neg hv]
    channel := by
      rw [hact]
      exact htouches.trans (hdrop (put t none { s with channel := ch' })) }

section

variable {e : Client.Error} (hparty : s.parties.find? t = some (.calling op))
  (hpoll : op.poll s.setting s.now s.channel = (.ready (.error e), ch'))
include hparty hpoll

lemma act_look_of_error :
    s.act (.look t) = (put t none { s with channel := ch' }).dropUnused := by
  simp only [act, look, hparty, hpoll]
  rfl

/-- What is noted last of a caller that leaves with an error is the error. -/
lemma notes_look_of_error (hrequest : op.isRequest = true)
    (htouches : s.channel.Touches t ch') :
    s.notes (.look t) = (op.exchange?.map (·.queueNotes s.now s.channel)).getD []
      ++ [.returned t (.error e)] := by
  have hstop := (withdraws_of_put (act_look_of_error hparty hpoll) htouches).channel.isStopped
  rw [notes, Channel.stopNotes_of_eq hstop, List.append_nil]
  simp only [doings, hparty, Operation.pollNotes, hpoll, hrequest, if_true]

/-- The error is the only result of the caller. -/
lemma returned_look_of_error (hrequest : op.isRequest = true)
    (htouches : s.channel.Touches t ch') (r : Except Client.Error Outcome) :
    .returned t r ∈ s.notes (.look t) ↔ r = .error e := by
  have hqueue : .returned t r ∉ (op.exchange?.map (·.queueNotes s.now s.channel)).getD [] := by
    cases op.exchange? with
    | none => exact List.not_mem_nil
    | some x =>
      rw [Option.map_some, Option.getD_some, Exchange.queueNotes]
      split <;> simp
  rw [notes_look_of_error hparty hpoll hrequest htouches, List.mem_append,
    or_iff_right hqueue, List.mem_singleton]
  exact ⟨by rintro ⟨⟩; rfl, by rintro rfl; rfl⟩

end

/-- Whether the connection is still in use does not depend on the archive. -/
lemma dropUnused_archive (history : History) (s : System) :
    (s.act (.archive history)).dropUnused = s.dropUnused.act (.archive history) := by
  unfold dropUnused
  change (if s.connected || s.isBusy then _ else _) = _
  split <;> rfl

/-- Somebody who gives up a fetch lets its subscription go. -/
lemma abandon_fetch {plan : Plan} {sub : Subscription} {due : Nat}
    (hparty : s.parties.find? t = some (.calling (.fetch plan sub due))) (ht : sub.ticket = t) :
    s.Withdraws t (.abandon t) ∧ s.notes (.abandon t) = [.released t] := by
  have hact : s.act (.abandon t)
      = (put t none { s with channel := (sub.release s.channel).2 }).dropUnused := by
    simp only [act, abandon, hparty]
    rfl
  have hleaves := withdraws_of_put hact (ht ▸ sub.touches_release s.channel)
  refine ⟨hleaves, ?_⟩
  rw [notes, Channel.stopNotes_of_eq hleaves.channel.isStopped, List.append_nil]
  simp only [doings, hparty, Operation.abandonNotes]

end System

/-! ### Runs -/

section

variable {setting : Setting} {textRoom : Nat}

/-- The subscription that is open while a history is fetched is for the call that the reply to the
request has opened. -/
lemma Run.opened_of_fetch (hrun : Run setting textRoom h s)
    (hlen : (numbered h).length ≤ UInt64.size) (hd : CallsDistinct h) {f : Fetch}
    (hparty : s.parties.find? t = some (.calling op))
    (hf : op.fetch? s.setting s.now s.channel = some f) :
    (story t h).opened = some f.subscription.call ∧ f.subscription.ticket = t := by
  obtain ⟨hsteps, hfits, -⟩ := hrun.steps
  have hfit : op.Fits t := hfits t _ hparty
  have hrole : s.ledger.role t = op.role := System.role_of_party hparty
  cases op with
  | fetch plan sub due =>
    obtain rfl := Option.some.inj hf
    exact ⟨((tended_of_steps hsteps hlen hd).consumer t sub hrole).1, hfit⟩
  | stream plan topic x =>
    obtain ⟨rfl, hrouted⟩ := hfit
    have ha := (hrun.correlated hlen).1.caller x.ticket x hrole
    simp only [Operation.fetch?] at hf
    split at hf
    case h_2 => cases hf
    case h_1 reply hpoll =>
      obtain ⟨c, hcall, rfl⟩ := Option.map_eq_some_iff.mp hf
      obtain ⟨hreply, hrejection⟩ := Exchange.reply_of_poll hpoll
      refine ⟨?_, rfl⟩
      have hreply' : (s.ledger.mailbox x.ticket).reply = some reply := hreply
      rw [Tended.opened_of_awaits ha, hreply', hrouted]
      simp [Channel.opened?, Subscription.opened, hrejection, hcall]
  | _ => cases hf

/-- A fetch that comes to nothing lets its subscription go, and its caller gets the error of the
archive, if it gets anything. -/
lemma Run.fetch_fails (hrun : Run setting textRoom h s)
    (hlen : (numbered h).length ≤ UInt64.size) (hd : CallsDistinct h) {a : System.Act}
    {sub : Subscription} {gets : Option Client.Error} (hfails : s.FetchFails t a sub gets) :
    (story t h).opened = some sub.call
      ∧ (story t (h ++ s.notes a)).ending = some .released
      ∧ s.Withdraws t a
      ∧ ∀ r, .returned t r ∈ s.notes a ↔ gets.map .error = some r := by
  cases hfails with
  | @archive op f e hparty hf hdue he =>
    obtain ⟨hopen, hticket⟩ := hrun.opened_of_fetch hlen hd hparty hf
    obtain ⟨ch', htouches, hpoll⟩ :=
      Operation.poll_of_failure hf (hrun.steps.2.1 t _ hparty) hticket hdue he
    have hrequest : op.isRequest = true := by cases op <;> first | rfl | cases hf
    refine ⟨hopen, ?_, System.withdraws_of_put (System.act_look_of_error hparty hpoll) htouches, ?_⟩
    · rw [System.notes_look_of_error hparty hpoll hrequest htouches, ← List.append_assoc]
      exact (Tended.story_left (story_opened_append hopen) (.inr ⟨e, rfl⟩)).2.2
    · intro r
      rw [System.returned_look_of_error hparty hpoll hrequest htouches, Option.map_some,
        Option.some_inj, eq_comm]
  | abandon hparty =>
    obtain ⟨hopen, hticket⟩ := hrun.opened_of_fetch hlen hd hparty rfl
    obtain ⟨hleaves, hnotes⟩ := System.abandon_fetch hparty hticket
    refine ⟨hopen, ?_, hleaves, ?_⟩
    · rw [hnotes]
      exact (Tended.story_left hopen (.inl rfl)).2.2
    · intro r
      rw [hnotes]
      simp

/-- A stream whose subscription fails leaves its caller with the error. -/
lemma Run.subscribe_fails (hrun : Run setting textRoom h s) {a : System.Act} {e : Client.Error}
    (hfails : s.SubscribeFails t a e) :
    (story t (h ++ s.notes a)).ending ≠ none
      ∧ (∀ r, .returned t r ∈ s.notes a ↔ r = .error e)
      ∧ ∀ history, (s.act (.archive history)).act a = (s.act a).act (.archive history)
        ∧ (s.act (.archive history)).notes a = s.notes a := by
  obtain ⟨he⟩ := hfails
  rw [System.refusal?] at he
  split at he
  case h_2 => cases he
  case h_1 op hparty =>
    obtain ⟨ch', htouches, hsame⟩ := Operation.poll_of_refusal he (hrun.steps.2.1 t _ hparty)
    have hpoll : op.poll s.setting s.now s.channel = (.ready (.error e), ch') :=
      hsame s.setting.history
    have hrequest : op.isRequest = true := by cases op <;> first | rfl | cases he
    have hnotes := System.notes_look_of_error hparty hpoll hrequest htouches
    refine ⟨?_, System.returned_look_of_error hparty hpoll hrequest htouches, fun history => ?_⟩
    · rw [hnotes, ← List.append_assoc, story_append_singleton]
      simp [Story.note, keeps]
    · have hparty' : (s.act (.archive history)).parties.find? t = some (.calling op) := hparty
      have hpoll' : op.poll (s.act (.archive history)).setting (s.act (.archive history)).now
          (s.act (.archive history)).channel = (.ready (.error e), ch') := hsame history
      constructor
      · rw [System.act_look_of_error hparty' hpoll', System.act_look_of_error hparty hpoll]
        exact System.dropUnused_archive history (System.put t none { s with channel := ch' })
      · rw [hnotes, System.notes_look_of_error hparty' hpoll' hrequest htouches]
        rfl

/-- In every run in which no two replies open the same call, where the history of a stream cannot be
fetched, its caller gets the error of the archive, and where the caller gives up meanwhile, it gets
nothing. The call that the subscription has opened is cancelled, once, and nothing is left of it;
all others are left alone and find their events. Where the subscription itself fails, the caller
gets its error whatever the archive would answer, and no history is fetched. -/
theorem Run.history_failure_leaves_nothing (hrun : Run setting textRoom h s) {a : System.Act}
    (as : List System.Act) (hlen : (numbered (h ++ s.log (a :: as))).length ≤ UInt64.size)
    (hd : CallsDistinct (h ++ s.log (a :: as))) :
    (∀ t sub gets, s.FetchFails t a sub gets →
      (story t h).opened = some sub.call
        ∧ (∀ r, .returned t r ∈ s.notes a ↔ gets.map .error = some r)
        ∧ s.Withdraws t a
        ∧ Parted t sub.call (h ++ s.log (a :: as)) (s.play (a :: as)))
      ∧ ∀ t e, s.SubscribeFails t a e →
        (∀ r, .returned t r ∈ s.notes a ↔ r = .error e)
          ∧ (∀ history, (s.act (.archive history)).act a = (s.act a).act (.archive history)
            ∧ (s.act (.archive history)).notes a = s.notes a)
          ∧ ∀ plan sub due,
            (s.play (a :: as)).parties.find? t ≠ some (.calling (.fetch plan sub due)) := by
  have hlog : h ++ s.log (a :: as) = h ++ s.notes a ++ (s.act a).log as :=
    (List.append_assoc ..).symm
  have hrun' := hrun.play (a :: as)
  constructor
  · intro t sub gets hfails
    obtain ⟨hopen, hend, hleaves, hgets⟩ :=
      hrun.fetch_fails (numbered_length_of_append hlen) hd.of_append hfails
    refine ⟨hopen, hgets, hleaves,
      hrun'.parted hlen hd (story_opened_append hopen) ?_⟩
    -- However the run goes on, the call stays let go.
    rw [hlog] at hlen hd ⊢
    rw [(hrun.act a).ending_play as hlen (by simp [hend]), hend]
  · intro t e hfails
    obtain ⟨hend, hgets, hsame⟩ := hrun.subscribe_fails hfails
    refine ⟨hgets, hsame, fun plan sub due hparty => ?_⟩
    -- Whoever fetches a history holds a call, and has not left.
    have hheld := (hrun'.receives hlen hd hparty rfl).2.ending
    rw [hlog] at hheld
    exact story_ending_append hend hheld

end

namespace System

/-- A stream of events. While its history is fetched an event comes, and then the archive fails. -/
def failingEvents : List Act :=
  [.archive ⟨.ok [], .ok [], ⟨1000⟩⟩, .stream .events, .look ⟨0⟩, .dispatch,
    .push (openingText 1 6), .dispatch, .look ⟨0⟩, .push (eventText 6 0), .dispatch,
    .advance ⟨1000⟩, .archive ⟨.ok [], .error (.http "connection refused"), ⟨1000⟩⟩]

/-- Where the archive is about to fail. -/
def beforeFailure : System := plain.play failingEvents

/-- What is noted up to the cancel of the call. -/
def failureLog : List Note :=
  plain.log failingEvents ++ beforeFailure.log [.look ⟨0⟩, .dispatch]

/-- A stream of events whose request is rejected. -/
def refusedEvents : List Act :=
  [.stream .events, .look ⟨0⟩, .dispatch, .push (rejectingText 1), .dispatch]

end System

/-- The caller of `beforeFailure` gets the error of the archive, and its call is cancelled. The
caller of `refusedEvents` gets the rejection. -/
theorem Run.history_failure_leaves_nothing_events :
    ((numbered System.failureLog).length ≤ UInt64.size ∧ CallsDistinct System.failureLog
      ∧ System.beforeFailure.FetchFails ⟨0⟩ (.look ⟨0⟩) (.opened ⟨6⟩ .events ⟨0⟩)
        (some (.http "connection refused"))
      ∧ .returned ⟨0⟩ (.error (.http "connection refused"))
        ∈ System.beforeFailure.notes (.look ⟨0⟩)
      ∧ (∃ id, ownCancels ⟨6⟩ System.failureLog
        (System.beforeFailure.play [.look ⟨0⟩, .dispatch]).channel.written
          = [⟨id, .cancel ⟨6⟩⟩])
      ∧ (System.beforeFailure.play [.look ⟨0⟩, .dispatch]).channel.routes.find? ⟨6⟩ = none)
    ∧ (System.plain.play System.refusedEvents).SubscribeFails ⟨0⟩ (.look ⟨0⟩)
        (.server "events" ⟨404, "NotFound", "none"⟩)
      ∧ .returned ⟨0⟩ (.error (.server "events" ⟨404, "NotFound", "none"⟩))
        ∈ (System.plain.play System.refusedEvents).notes (.look ⟨0⟩) := by
  constructor
  · obtain ⟨hlen, hd⟩ : (numbered System.failureLog).length ≤ UInt64.size
        ∧ CallsDistinct System.failureLog := by
      decide +kernel
    have hparty : System.beforeFailure.parties.find? ⟨0⟩
        = some (.calling (.fetch .events (.opened ⟨6⟩ .events ⟨0⟩) 1000)) :=
      Party.eq_of_fetching (fun | .events => true | _ => false)
        (by rintro ⟨⟩ <;> simp) (by decide +kernel)
    have hfails : System.beforeFailure.FetchFails ⟨0⟩ (.look ⟨0⟩) (.opened ⟨6⟩ .events ⟨0⟩)
        (some (.http "connection refused")) :=
      .archive (f := ⟨.events, .opened ⟨6⟩ .events ⟨0⟩, 1000⟩) hparty rfl (by decide +kernel)
        (.events rfl)
    have hrun : Run ⟨.default, .none⟩ 64 (System.plain.log System.failingEvents)
        System.beforeFailure := Run.plain System.failingEvents
    obtain ⟨-, hgets, -, hparted⟩ :=
      (hrun.history_failure_leaves_nothing [.dispatch] hlen hd).1 ⟨0⟩ _ _ hfails
    obtain ⟨hrunning, hcancels, hhand⟩ :
        (System.beforeFailure.play [.look ⟨0⟩, .dispatch]).channel.isStopped = false
          ∧ (System.beforeFailure.play [.look ⟨0⟩, .dispatch]).channel.cancels = []
          ∧ (System.beforeFailure.play [.look ⟨0⟩, .dispatch]).channel.hand = [] := by
      decide +kernel
    exact ⟨hlen, hd, hfails, (hgets _).mpr rfl, hparted.drained hrunning hcancels hhand⟩
  · have hfails : (System.plain.play System.refusedEvents).SubscribeFails ⟨0⟩ (.look ⟨0⟩)
        (.server "events" ⟨404, "NotFound", "none"⟩) := .look (by decide +kernel)
    have hgets := ((Run.plain System.refusedEvents).history_failure_leaves_nothing []
      (by decide +kernel) (by decide +kernel)).2 ⟨0⟩ _ hfails
    exact ⟨hfails, (hgets.1 _).mpr rfl⟩

end GroundLink.Connection
