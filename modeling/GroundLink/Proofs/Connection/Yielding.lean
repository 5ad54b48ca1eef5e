import GroundLink.Proofs.Connection.Answering
import GroundLink.Proofs.Connection.Delivery

/-!
# What consumers find

A subscription yields the events of its own call, from the reply that opens the call until the
consumer leaves: all of them, once, and in the order in which the server has sent them. An event
that no subscription wants is counted.
-/

namespace GroundLink.Connection

open Protocol

variable {h : List Note} {t : Ticket}

/-! ### Events at the dispatcher -/

namespace Channel

/-- An event goes into one queue, and is not counted. -/
structure Put (t : Ticket) (u : Update) (before after : Channel) : Prop where
  queue : ∀ v, (after.mailbox v).events
    = (before.mailbox v).events ++ if v = t then [u] else []
  unrouted : after.traffic.unrouted = before.traffic.unrouted

/-- An event goes nowhere, and is counted. -/
structure Counted (before after : Channel) : Prop where
  queue : ∀ v, (after.mailbox v).events = (before.mailbox v).events
  unrouted : after.traffic.unrouted = before.traffic.unrouted + 1

/-- An event goes into the queue of who listens to its call, or is counted. -/
lemma handleEvent_cases (u : Update) (ch : Channel) :
    (∃ t, ch.routes.find? u.call = some t ∧ (ch.mailbox t).listening = true
        ∧ Put t u ch (handleEvent u ch))
      ∨ (∀ t, ch.routes.find? u.call = some t → (ch.mailbox t).listening = false)
        ∧ Counted ch (handleEvent u ch) := by
  unfold handleEvent
  dsimp only
  split
  case h_1 hfind =>
    refine .inr ⟨?_, fun _ => rfl, rfl⟩
    intro t ht
    rw [hfind] at ht
    cases ht
  case h_2 t hfind =>
    split
    case isTrue hlistening =>
      refine .inl ⟨t, hfind, hlistening, ?_, rfl⟩
      intro v
      rw [deliver, mailbox_updateMailbox (.inl (mailbox_ne_left_of_listening hlistening))]
      by_cases hv : v = t
      · subst hv
        rw [Function.update_self, if_pos rfl]
        rfl
      · rw [Function.update_of_ne hv, if_neg hv, List.append_nil]
        rfl
    case isFalse hlistening =>
      refine .inr ⟨?_, fun _ => rfl, rfl⟩
      intro t' ht'
      rw [hfind] at ht'
      obtain rfl := Option.some.inj ht'
      exact eq_false_of_ne_true hlistening

lemma publish_same (frame : Option Frame) (ch : Channel) :
    (publish frame ch).mailbox = ch.mailbox ∧ (publish frame ch).traffic = ch.traffic := by
  cases frame <;> exact ⟨rfl, rfl⟩

/-- The dispatcher handles a text that is an event. -/
lemma perform_event {text : String} (rest : List String) {u : Update} (ch : Channel)
    (htext : Frame.decode text = .event u) :
    (∃ t, ch.routes.find? u.call = some t ∧ (ch.mailbox t).listening = true
        ∧ Put t u ch (ch.perform (.receive text rest)))
      ∨ (∀ t, ch.routes.find? u.call = some t → (ch.mailbox t).listening = false)
        ∧ Counted ch (ch.perform (.receive text rest)) := by
  simp only [perform, receive, htext]
  obtain ⟨hmailbox, htraffic⟩ := publish_same (if ch.fanout.isHeard then some (.event u) else none)
    (handleEvent u { ch with inbound := rest, traffic := ch.traffic.countReceived })
  refine (handleEvent_cases u
    { ch with inbound := rest, traffic := ch.traffic.countReceived }).imp ?_ ?_
  · rintro ⟨t, hfind, hlistening, hqueue, hunrouted⟩
    refine ⟨t, hfind, hlistening, ?_, ?_⟩
    · rw [hmailbox]
      exact hqueue
    · rw [htraffic]
      exact hunrouted
  · rintro ⟨hnobody, hqueue, hunrouted⟩
    refine ⟨hnobody, ?_, ?_⟩
    · rw [hmailbox]
      exact hqueue
    · rw [htraffic]
      exact hunrouted

end Channel

/-! ### Events at the consumers -/

/-- Whether a consumer that looks for what is next finds no item. -/
def Party.isDry (p : Party) (ch : Channel) : Bool :=
  match p with
  | .calling _ => false
  | .holding s => match (s.poll ch).1 with
    | .item _ => false
    | _ => true
  | .streaming s => match (s.poll ch).1 with
    | .item _ => false
    | _ => true

lemma story_yielded (t : Ticket) (us : List Update) :
    (story t (h ++ us.map (.yielded t))).read = (story t h).read ++ us := by
  induction us using List.reverseRecOn with
  | nil => simp
  | append_singleton us u ih =>
    rw [List.map_append, ← List.append_assoc, List.map_singleton, story_append_singleton]
    simp [Story.note, ih]

lemma Subscription.keep_events (s : Subscription) (rest : List Update) (ch : Channel)
    (hrest : rest <:+ (ch.mailbox s.ticket).events) :
    ((s.keep rest ch).mailbox s.ticket).events = rest :=
  (s.steps_keep (ρ := fun _ => .consumer s) (τ := 0) ch rfl rfl hrest).2

/-- A consumer that finds no item has nothing left in its queue. -/
lemma Party.events_of_isDry {p : Party} {sub : Subscription} {ch : Channel}
    (hrole : p.role = .consumer sub) (hclosed : sub.state ≠ .subscribed →
      (ch.mailbox sub.ticket).events = []) (hdry : p.isDry ch = true) :
    ((p.read ch).2.mailbox sub.ticket).events = [] := by
  cases p with
  | calling op => cases hdry
  | holding s =>
    obtain rfl : s = sub := by injection hrole
    simp only [isDry, read] at hdry ⊢
    unfold Subscription.poll at hdry ⊢
    split
    case isTrue hstate => exact hclosed hstate
    case isFalse hstate =>
      rw [if_neg hstate] at hdry
      split
      case h_1 u rest hevents =>
        rw [hevents] at hdry
        cases hdry
      case h_2 hevents => exact hevents
  | streaming s =>
    obtain rfl : s.subscription = sub := by injection hrole
    simp only [isDry, read] at hdry ⊢
    unfold Stream.poll at hdry ⊢
    split
    case h_1 item hitem =>
      rw [hitem] at hdry
      cases hdry
    case h_2 hitem =>
      rw [hitem] at hdry
      dsimp only at hdry
      split
      case isTrue hstate => exact hclosed hstate
      case isFalse hstate =>
        rw [if_neg hstate] at hdry
        obtain ⟨hsuffix, hnil⟩ := s.viewer.next_eq (ch.mailbox s.subscription.ticket).events
        dsimp only at hdry ⊢
        split
        case h_1 item hnext =>
          rw [hnext] at hdry
          cases hdry
        case h_2 hnext =>
          dsimp only
          rw [s.subscription.keep_events _ ch hsuffix, hnil hnext]

lemma Party.isStopped_read (p : Party) (ch : Channel) :
    (p.read ch).2.isStopped = ch.isStopped := by
  cases p with
  | calling op => rfl
  | holding s => exact (s.steps_poll (ρ := fun _ => .consumer s) (τ := 0) ch rfl rfl).2.2
  | streaming s =>
    exact (s.steps_poll (ρ := fun _ => .consumer s.subscription) (τ := 0) ch rfl rfl).2.2

/-- What is noted where a consumer looks are the events that leave its queue. -/
lemma System.notes_read {s : System} {t : Ticket} {p : Party} (hparty : s.parties.find? t = some p)
    (hp : p.isCalling = false) :
    s.notes (.read t) = (takenEvents t s.channel (p.read s.channel).2).map (.yielded t) := by
  have hstop : Channel.stopNotes s.channel (s.act (.read t)).channel = [] := by
    refine Channel.stopNotes_of_eq ?_
    cases p with
    | calling op => cases hp
    | holding sub | streaming st =>
      simp only [act, read, hparty]
      exact Party.isStopped_read ..
  rw [notes, hstop, List.append_nil]
  cases p with
  | calling op => cases hp
  | holding sub | streaming st => simp only [doings, hparty]

lemma Subscription.taken_of_item {sub : Subscription} {ch : Channel} {u : Update}
    (hitem : (sub.poll ch).1 = .item u) : takenEvents sub.ticket ch (sub.poll ch).2.2 = [u] := by
  revert hitem
  unfold poll
  split
  · rintro ⟨⟩
  · split
    case h_1 u' rest hevents =>
      rintro ⟨⟩
      have hkept := sub.keep_events rest ch (by rw [hevents]; exact List.suffix_cons ..)
      simp [takenEvents, hevents, hkept]
    case h_2 hevents =>
      intro hitem
      simp only [await] at hitem
      split at hitem <;> cases hitem

/-! ### Runs -/

/-- Somebody holds a subscription, which has yielded some of the events of its call. -/
structure Holds (h : List Note) (s : System) (t : Ticket) (p : Party) (sub : Subscription) :
    Prop where
  /-- It has not been let go. -/
  ending : (story t h).ending = none
  /-- The events since the reply that has opened the call are those that have arrived. -/
  since : ∃ before r after, h = before ++ .handled (.reply r) :: after
    ∧ replyOf t before = none ∧ replyOf t h = some r ∧ r.rejection = none
    ∧ r.call = some sub.call ∧ (story t h).arrived = eventsOf sub.call after
  queue : (story t h).read ++ (s.channel.mailbox t).events = (story t h).arrived
  next : ∀ u, p = .holding sub → (sub.poll s.channel).1 = .item u →
    s.notes (.read t) = [.yielded t u]
  /-- When it yields nothing, all that has arrived has been read. -/
  dry : p.isDry s.channel = true →
    (story t (h ++ s.notes (.read t))).read = (story t h).arrived

/-- In every run in which no two replies open the same call, a subscription yields the events of its
call in their order, from the reply that has opened it until it is let go, and none thereafter;
whoever reads until there is nothing has read all. Each event that is handled goes into the queue of
the one who holds its call, or, if nobody does any more, is counted. -/
theorem Run.subscriptions_yield {setting : Setting} {textRoom : Nat} {s : System}
    (hrun : Run setting textRoom h s) (hlen : (numbered h).length ≤ UInt64.size)
    (hd : CallsDistinct h) :
    (∀ t, (story t h).read <+: (story t h).arrived)
      ∧ (∀ t h', (story t h).ending ≠ none →
        (story t (h ++ h')).arrived = (story t h).arrived)
      ∧ (∀ t p sub, s.parties.find? t = some p → p.role = .consumer sub → Holds h s t p sub)
      ∧ ∀ text rest u, s.channel.task? = some (.receive text rest) →
        Frame.decode text = .event u →
        ((∃ t, (story t h).opened = some u.call ∧ (story t h).ending = none
            ∧ Channel.Put t u s.channel (s.act .dispatch).channel)
          ∨ (∀ t, (story t h).opened = some u.call → (story t h).ending ≠ none)
            ∧ Channel.Counted s.channel (s.act .dispatch).channel)
        ∧ ∀ t, (story t h).opened = some u.call → (story t h).ending ≠ none →
          Channel.Counted s.channel (s.act .dispatch).channel := by
  obtain ⟨hsteps, hfits, -⟩ := hrun.steps
  have hq := delivered_of_steps hsteps hlen hd
  have ht := tended_of_steps hsteps hlen hd
  refine ⟨hq.before, fun t h' => story_arrived_of_ending, ?_, ?_⟩
  · intro t p sub hparty hrole
    have hrole' : s.ledger.role t = .consumer sub := by
      change Party.roleOf (s.parties.find? t) = .consumer sub
      rw [hparty]
      exact hrole
    have hticket := Party.ticket_of_fits (hfits t p hparty) hrole
    obtain ⟨hopen, hend, -⟩ := ht.consumer t sub hrole'
    have hqueue : (story t h).read ++ (s.channel.mailbox t).events = (story t h).arrived :=
      hq.queue t (by simp [hrole'])
    refine ⟨hend, ?_, hqueue, ?_, ?_⟩
    · simp only [← story_answer]
      exact story_arrived hopen hend
    · rintro u rfl hitem
      have htaken := Subscription.taken_of_item hitem
      rw [System.notes_read hparty rfl, ← hticket]
      exact congrArg _ htaken
    · intro hdry
      -- The queue is empty after the look, so all that was in it has been taken.
      have hempty := Party.events_of_isDry hrole
        (fun hstate => hticket ▸ hq.closed t sub hrole' hstate) hdry
      rw [hticket] at hempty
      have hp : p.isCalling = false := by cases p <;> first | rfl | cases hdry
      rw [System.notes_read hparty hp, story_yielded, ← hqueue]
      simp [takenEvents, hempty]
  · intro text rest u htask htext
    have hact : (s.act .dispatch).channel = s.channel.perform (.receive text rest) := by
      simp only [System.act, Channel.step?_eq, htask]
      rfl
    have hrunning : s.ledger.stopped = false := Channel.isStopped_of_task htask
    rw [hact]
    rcases Channel.perform_event rest s.channel htext with
      ⟨t, hfind, hlistening, hput⟩ | ⟨hnobody, hcounted⟩
    · have hopen := ht.routed u.call t hfind
      have hend := ht.listening hrunning t hlistening
      refine ⟨.inl ⟨t, hopen, hend, hput⟩, ?_⟩
      intro t' hopen' hend'
      obtain rfl := hd hopen hopen'
      exact absurd hend hend'
    · refine ⟨.inr ⟨?_, hcounted⟩, fun _ _ _ => hcounted⟩
      intro t hopen hend
      obtain ⟨hfind, hlistening⟩ := ht.route hrunning t u.call hopen hend
      have hnot := hnobody t hfind
      rw [show (s.channel.mailbox t).listening = true from hlistening] at hnot
      cases hnot

namespace System

/-- Two subscriptions. Each gets an event, and the first one gets another, which is not read. -/
def mixed : List Act :=
  [.subscribe (.time "simulator" "realtime"), .subscribe (.links "simulator"), .look ⟨0⟩,
    .look ⟨1⟩, .dispatch, .dispatch, .push (openingText 2 6), .push (openingText 1 5), .dispatch,
    .dispatch, .look ⟨0⟩, .look ⟨1⟩, .push (eventText 5 0), .push (eventText 6 0),
    .push (eventText 5 1), .dispatch, .dispatch, .dispatch, .read ⟨0⟩]

end System

/-- The first subscription in `mixed` has yielded one of its two events. -/
theorem Run.subscriptions_yield_mixed :
    (numbered (System.plain.log System.mixed)).length ≤ UInt64.size
      ∧ CallsDistinct (System.plain.log System.mixed)
      ∧ (System.plain.play System.mixed).parties.find? ⟨0⟩
        = some (.holding (.opened ⟨5⟩ .time ⟨0⟩))
      ∧ (story ⟨0⟩ (System.plain.log System.mixed)).read.map (·.seq) = [0]
      ∧ (story ⟨0⟩ (System.plain.log System.mixed)).arrived.map (·.seq) = [0, 1]
      ∧ Holds (System.plain.log System.mixed) (System.plain.play System.mixed) ⟨0⟩
        (.holding (.opened ⟨5⟩ .time ⟨0⟩)) (.opened ⟨5⟩ .time ⟨0⟩) := by
  have hlen : (numbered (System.plain.log System.mixed)).length ≤ UInt64.size := by
    decide +kernel
  have hd : CallsDistinct (System.plain.log System.mixed) := by
    decide +kernel
  have hparty : (System.plain.play System.mixed).parties.find? ⟨0⟩
      = some (.holding (.opened ⟨5⟩ .time ⟨0⟩)) :=
    Party.eq_of_held (by decide +kernel)
  refine ⟨hlen, hd, hparty, by decide +kernel, by decide +kernel, ?_⟩
  exact ((Run.plain System.mixed).subscriptions_yield hlen hd).2.2.1 ⟨0⟩ _ _ hparty rfl

end GroundLink.Connection
