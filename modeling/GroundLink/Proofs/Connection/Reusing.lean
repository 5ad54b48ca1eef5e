import GroundLink.Proofs.Connection.Keeping
import GroundLink.Proofs.Connection.Stopping
import GroundLink.Proofs.Connection.Sweeping

/-!
# Calls with one name

The server may give a call the name that an older call still has. The events then go to the newer
subscription. It keeps them for as long as it is held and no further call gets the name, provided
that each other subscription of that name has come to its end before it is let go. One that is let
go earlier cancels the call of the newer one.
-/

namespace GroundLink.Connection

open Protocol

variable {τ : Nat} {h h' : List Note} {l l' : Ledger} {t : Ticket} {c : CallId}

/-! ### Whose a call is -/

/-- Consumers and routes have had their replies, and no queue has an event without one. -/
structure Assigned (h : List Note) (l : Ledger) : Prop where
  consumer : ∀ t sub, l.role t = .consumer sub →
    (story t h).opened = some sub.call ∧ (story t h).ending = none
  routed : ∀ c t, l.routes.find? c = some t → (story t h).opened = some c
  unanswered : ∀ t, (story t h).answer = none → (l.mailbox t).events = []

lemma story_ending_of_party {n : Note} {u : Ticket} (hn : n.party? = some u) (htu : t ≠ u) :
    (story t (h ++ [n])).ending = (story t h).ending := by
  rw [story_append_singleton]
  exact Story.ending_note (by rw [hn]; rintro ⟨⟩; exact htu rfl)

lemma story_ending_of_none {n : Note} (hn : n.party? = none) :
    (story t (h ++ [n])).ending = (story t h).ending := by
  rw [story_append_singleton]
  exact Story.ending_note (by rw [hn]; rintro ⟨⟩)

lemma story_ending_of_yielded (t u : Ticket) (e : Update) :
    (story t (h ++ [.yielded u e])).ending = (story t h).ending := by
  rw [story_append_singleton, Story.note]
  split <;> rfl

namespace Assigned

/-- A step after which nobody has a call that has not had it before. -/
lemma frame (ha : Assigned h l)
    (hrole : ∀ t sub, l'.role t = .consumer sub →
      (story t h).opened = some sub.call ∧ (story t (h ++ h')).ending = none)
    (hroutes : ∀ c t, l'.routes.find? c = some t →
      l.routes.find? c = some t ∨ (story t (h ++ h')).opened = some c)
    (hevents : ∀ t, (story t h).answer = none → (l.mailbox t).events = [] →
      (l'.mailbox t).events = []) : Assigned (h ++ h') l' where
  consumer := fun t sub ht => ⟨story_opened_append (hrole t sub ht).1, (hrole t sub ht).2⟩
  routed := fun c t hfind => (hroutes c t hfind).elim
    (fun hfind => story_opened_append (ha.routed c t hfind)) id
  unanswered := by
    intro t ht
    have hbefore : (story t h).answer = none := by
      by_contra hne
      exact story_answer_append h' hne ht
    exact hevents t hbefore (ha.unanswered t hbefore)

/-- A step of a party with a note, if any, after which the others are as before. -/
lemma party (ha : Assigned h l) {u : Ticket} {m : Mailbox} {r : Role}
    (hother : ∀ t, t ≠ u → (story t (h ++ h')).ending = (story t h).ending)
    (hrole : ∀ sub, r = .consumer sub →
      (story u h).opened = some sub.call ∧ (story u (h ++ h')).ending = none)
    (hm : (l.mailbox u).events = [] → m.events = []) :
    Assigned (h ++ h') ((l.setMailbox u m).setRole u r) := by
  refine ha.frame (fun t sub ht => ?_) (fun _ _ => .inl) fun t _ hnil => ?_
  · rw [Ledger.setRole_role] at ht
    by_cases htu : t = u
    · rw [if_pos htu] at ht
      exact htu ▸ hrole sub ht
    · rw [if_neg htu] at ht
      rw [hother t htu]
      exact ha.consumer t sub ht
  · rw [Ledger.setRole_mailbox, Ledger.setMailbox_mailbox]
    split
    case isTrue htu => exact hm (htu ▸ hnil)
    case isFalse => exact hnil

lemma setRole (ha : Assigned h l) {u : Ticket} {r : Role}
    (hother : ∀ t, t ≠ u → (story t (h ++ h')).ending = (story t h).ending)
    (hrole : ∀ sub, r = .consumer sub →
      (story u h).opened = some sub.call ∧ (story u (h ++ h')).ending = none) :
    Assigned (h ++ h') (l.setRole u r) := by
  rw [← Ledger.setMailbox_self u l]
  exact ha.party hother hrole id

lemma setMailbox (ha : Assigned h l) {u : Ticket} {m : Mailbox}
    (hm : (l.mailbox u).events = [] → m.events = []) : Assigned h (l.setMailbox u m) where
  consumer := ha.consumer
  routed := ha.routed
  unanswered := by
    intro t ht
    rw [Ledger.setMailbox_mailbox]
    split
    case isTrue htu => exact hm (htu ▸ ha.unanswered t ht)
    case isFalse => exact ha.unanswered t ht

/-- The route that a reply opens leads to the request that it answers. -/
lemma resolving (ha : Assigned h l) (hc : Correlated τ h l) {id : RequestId} {w : Waiter}
    {r : Reply} (hid : r.request = some id) (hfind : l.pending.find? id = some w) :
    Assigned (h ++ [.handled (.reply r)]) (l.resolving id w r) := by
  obtain ⟨hnumber, hrouted, hanswer, -⟩ := hc.pending id w (Table.mem_of_find? hfind)
  have hanswered := Tended.answered_of_reply hc.apart hid hnumber hanswer
  refine ha.frame (fun t sub ht => ?_) (fun c t hroute => ?_) fun _ _ hnil => hnil
  · rw [hanswered.ending]
    exact ha.consumer t sub ht
  · cases hcall : Channel.opened? w r with
    | none =>
      rw [Ledger.resolving_routes_of_none hcall] at hroute
      exact .inl hroute
    | some c' =>
      rw [Ledger.resolving_routes_of_some hcall] at hroute
      by_cases hcc : c' = c
      · subst hcc
        rw [Table.find?_insert_self] at hroute
        obtain rfl := Option.some.inj hroute
        rw [hanswered.opened, hrouted]
        exact .inr hcall
      · rw [Table.find?_insert_of_ne hcc] at hroute
        exact .inl hroute

/-- A step without a note of a party, after which all roles and mailboxes are the same. -/
lemma quiet (ha : Assigned h l)
    (hending : ∀ t, (story t (h ++ h')).ending = (story t h).ending) (hrole : l'.role = l.role)
    (hmailbox : l'.mailbox = l.mailbox)
    (hroutes : ∀ c t, l'.routes.find? c = some t → l.routes.find? c = some t) :
    Assigned (h ++ h') l' := by
  refine ha.frame (fun t sub ht => ?_) (fun c t hfind => .inl (hroutes c t hfind)) ?_
  · rw [hending]
    exact ha.consumer t sub (hrole ▸ ht)
  · rw [hmailbox]
    exact fun _ _ hnil => hnil

lemma find?_of_erase {rs : Table CallId Ticket} {c c' : CallId}
    (hfind : (rs.erase c').find? c = some t) : rs.find? c = some t := by
  by_cases hcc : c' = c
  · rw [hcc, Table.find?_erase_self] at hfind
    cases hfind
  · rwa [Table.find?_erase_of_ne hcc] at hfind

lemma step (ha : Assigned h l) (hc : Correlated τ h l) (hs : Ledger.Step τ l h' l') :
    Assigned (h ++ h') l' := by
  have hnil : ∀ t, (story t (h ++ [])).ending = (story t h).ending := fun t => by
    rw [List.append_nil]
  cases hs with
  | enter x hx hstage =>
    have hnext : Assigned h { l with nextTicket := l.nextTicket + 1 } :=
      ⟨ha.consumer, ha.routed, ha.unanswered⟩
    exact hnext.party (fun t _ => hnil t) (by rintro _ ⟨⟩) fun _ => rfl
  | ticket =>
    have hnext : Assigned h { l with nextTicket := l.nextTicket + 1 } :=
      ⟨ha.consumer, ha.routed, ha.unanswered⟩
    exact hnext.setRole (fun t _ => hnil t) (by rintro _ ⟨⟩)
  | @queue _ x now hrun hrole ht hstage =>
    have hnext : Assigned h { l with commands := l.commands ++ [x.command] } :=
      ⟨ha.consumer, ha.routed, ha.unanswered⟩
    exact hnext.setRole (fun _ _ => story_ending_of_none rfl) (by rintro _ ⟨⟩)
  | order hrun hnone => exact ha.quiet hnil rfl rfl fun _ _ => id
  | fail e hrole hreply =>
    exact ha.party (fun _ => story_ending_of_party rfl) (by rintro _ ⟨⟩) fun hnil => hnil
  | finish hrole hrouted hkeeps =>
    exact ha.party (fun _ => story_ending_of_party rfl) (by rintro _ ⟨⟩) fun hnil => hnil
  | abandon hrole =>
    exact ha.party (fun _ => story_ending_of_party rfl) (by rintro _ ⟨⟩) fun hnil => hnil
  | @«open» t x r c topic hrole hrouted hreply hrejection hcall =>
    have hawaits := hc.caller t x hrole
    refine ha.party (fun t _ => hnil t) ?_ fun hnil => hnil
    rintro sub ⟨⟩
    refine ⟨?_, (hnil t).trans hawaits.ending⟩
    rw [Tended.opened_of_awaits hawaits, hreply]
    simp [Channel.opened?, Subscription.opened, hrouted, hrejection, hcall]
  | tell hkeeps =>
    refine ha.quiet (fun t => ?_) rfl rfl fun _ _ => id
    rw [story_append_singleton, Story.note_of_keeps hkeeps]
  | @release t s n hrole hstate hnote =>
    have hnext : Assigned h
        { l with cancels := if l.stopped then l.cancels else l.cancels ++ [s.call] } :=
      ⟨ha.consumer, ha.routed, ha.unanswered⟩
    refine hnext.party (fun u hu => ?_) (by rintro _ ⟨⟩) fun _ => rfl
    rcases hnote with rfl | ⟨e, rfl⟩ <;> exact story_ending_of_party rfl hu
  | @drop t s n hrole hstate hnote =>
    refine ha.setRole (fun u hu => ?_) (by rintro _ ⟨⟩)
    rcases hnote with rfl | ⟨e, rfl⟩ <;> exact story_ending_of_party rfl hu
  | @read t s u rest hrole hevents =>
    refine ha.frame (fun v sub hv => ?_) (fun _ _ => .inl) fun v _ hv => ?_
    · rw [story_ending_of_yielded]
      exact ha.consumer v sub hv
    · rw [Ledger.setMailbox_mailbox]
      split
      case isTrue hvt =>
        rw [hvt, hevents] at hv
        cases hv
      case isFalse => exact hv
  | @close t s hrole hevents hnever =>
    refine ha.setRole (fun t _ => hnil t) ?_
    rintro sub ⟨⟩
    rw [hnil]
    exact ha.consumer t s hrole
  | sweep hrun => exact ha.quiet hnil rfl rfl fun _ _ => id
  | number hrun hhand hcommands =>
    exact ha.quiet (fun _ => story_ending_of_none rfl) rfl rfl fun _ _ => id
  | cancel hrun hhand hcancels =>
    exact ha.quiet (fun _ => story_ending_of_none rfl) rfl rfl fun _ _ => find?_of_erase
  | write hrun hhand => exact ha.quiet hnil rfl rfl fun _ _ => id
  | stop hrun => exact ha.quiet (fun _ => story_ending_of_none rfl) rfl rfl (by rintro c t ⟨⟩)
  | answer hrun hid hfind hwaiting =>
    exact (ha.resolving hc hid hfind).setMailbox fun hnil => hnil
  | late hrun hid hfind hgone =>
    obtain ⟨hconsumer, hrouted, hunanswered⟩ := ha.resolving hc hid hfind
    exact ⟨hconsumer, hrouted, hunanswered⟩
  | forgotten hrun hid hfind hmem =>
    exact ha.quiet (fun _ => story_ending_of_none rfl) rfl rfl fun _ _ => id
  | pass hrun hnone => exact ha.quiet (fun _ => story_ending_of_none rfl) rfl rfl fun _ _ => id
  | @deliver t u hrun hfind hlistening =>
    refine ha.frame (fun v sub hv => ?_) (fun _ _ => .inl) fun v hv hnil => ?_
    · rw [story_ending_of_none rfl]
      exact ha.consumer v sub hv
    · rw [Ledger.setMailbox_mailbox]
      split
      case isTrue hvt =>
        have hopen := ha.routed _ _ hfind
        rw [← hvt, Story.opened_of_unanswered hv] at hopen
        cases hopen
      case isFalse => exact hnil
  | unroute hrun hfind hlistening =>
    exact ha.quiet (fun _ => story_ending_of_none rfl) rfl rfl fun _ _ => find?_of_erase
  | miss hrun hfind => exact ha.quiet (fun _ => story_ending_of_none rfl) rfl rfl fun _ _ => id
  | other hrun hreply hevent =>
    exact ha.quiet (fun _ => story_ending_of_none rfl) rfl rfl fun _ _ => id

lemma start : Assigned [] .start where
  consumer := nofun
  routed := nofun
  unanswered := fun _ _ => rfl

end Assigned

theorem assigned_of_steps (hs : Ledger.start.Steps τ h l)
    (hlen : (numbered h).length ≤ UInt64.size) : Assigned h l :=
  hs.invariant_correlated .start (fun _ _ hc ha hstep => ha.step hc hstep) hlen

/-- Nobody has read anything without a reply. -/
theorem unread_of_steps (hs : Ledger.start.Steps τ h l) (hlen : (numbered h).length ≤ UInt64.size)
    (hanswer : (story t h).answer = none) : (story t h).read = [] := by
  refine hs.invariant_correlated (P := fun h _ =>
    (story t h).answer = none → (story t h).read = []) (fun _ => rfl) ?_ hlen hanswer
  intro h h' l l' hs hlen _ ih hstep hanswer
  have hbefore : (story t h).answer = none := by
    by_contra hne
    exact story_answer_append h' hne hanswer
  rw [story_read_append, ih hbefore]
  intro u hmem
  -- Whoever reads has a call, and so a reply.
  cases hstep with
  | @read t' s u' rest hrole hevents =>
    obtain ⟨rfl, -⟩ : t = t' ∧ u = u' := by simpa using hmem
    have hopen := ((assigned_of_steps hs hlen).consumer t s hrole).1
    rw [Story.opened_of_unanswered hbefore] at hopen
    cases hopen
  | release _ _ hnote | drop _ _ hnote =>
    obtain rfl | ⟨e, rfl⟩ := hnote <;> simp at hmem
  | _ => simp at hmem

/-! ### The newest subscription of a call -/

/-- Somebody gets the events of a call, and nothing cancels it. Some notes are those since the reply
that has opened the call. -/
structure Served (t : Ticket) (c : CallId) (since h : List Note) (l : Ledger) : Prop where
  route : l.routes.find? c = some t
  listening : (l.mailbox t).listening = true
  uncancelled : l.cancelCount c since = 0
  held : (∃ x, l.role t = .caller x)
    ∨ ∃ sub, l.role t = .consumer sub ∧ sub.call = c ∧ sub.state = .subscribed
  queue : (story t h).read ++ (l.mailbox t).events = eventsOf c since

/-- Somebody lets go of a subscription that still has its call. -/
def LetsGo (t : Ticket) (c : CallId) (h h' : List Note) (l : Ledger) : Prop :=
  ∃ u sub, u ≠ t ∧ l.role u = .consumer sub ∧ sub.call = c ∧ sub.state = .subscribed
    ∧ (story u (h ++ h')).ending = some .released

namespace Served

variable {since : List Note}

/-- A step of others, with which nothing of the call comes or goes. -/
lemma frame (hs : Served t c since h l) (hroute : l'.routes.find? c = some t)
    (hmailbox : (l'.mailbox t).listening = (l.mailbox t).listening
      ∧ (l'.mailbox t).events = (l.mailbox t).events)
    (hcancels : l'.cancels.count c = l.cancels.count c) (hnumbers : cancelNumbers c h' = [])
    (hrole : l'.role t = l.role t) (hread : ∀ u, .yielded t u ∉ h')
    (hevents : eventsOf c h' = []) : Served t c (since ++ h') (h ++ h') l' where
  route := hroute
  listening := hmailbox.1.trans hs.listening
  uncancelled := by
    rw [Ledger.cancelCount, hcancels, cancelNumbers_append, hnumbers, List.append_nil]
    exact hs.uncancelled
  held := by
    rw [hrole]
    exact hs.held
  queue := by
    rw [story_read_append hread, hmailbox.2, hs.queue]
    simp [eventsOf] at hevents ⊢
    exact hevents

/-- A step of somebody else who has a ticket. -/
lemma other (hs : Served t c since h l) {u : Ticket} {m : Mailbox} {r : Role} (hut : u ≠ t)
    (hnumbers : cancelNumbers c h' = []) (hread : ∀ e, .yielded t e ∉ h')
    (hevents : eventsOf c h' = []) :
    Served t c (since ++ h') (h ++ h') ((l.setMailbox u m).setRole u r) := by
  refine hs.frame hs.route ?_ rfl hnumbers ?_ hread hevents
  · rw [Ledger.setRole_mailbox, Ledger.setMailbox_mailbox, if_neg hut.symm]
    exact ⟨rfl, rfl⟩
  · rw [Ledger.setRole_role, if_neg hut.symm]
    rfl

/-- A step of somebody else, whose queue does not matter. -/
lemma setRole (hs : Served t c since h l) {u : Ticket} {r : Role} (hut : u ≠ t)
    (hnumbers : cancelNumbers c h' = []) (hread : ∀ e, .yielded t e ∉ h')
    (hevents : eventsOf c h' = []) : Served t c (since ++ h') (h ++ h') (l.setRole u r) := by
  rw [← Ledger.setMailbox_self u l]
  exact hs.other hut hnumbers hread hevents

/-- A mailbox that differs in its reply alone. -/
lemma setMailbox (hs : Served t c since h l) {u : Ticket} {m : Mailbox}
    (hlistening : m.listening = (l.mailbox u).listening)
    (hevents : m.events = (l.mailbox u).events) : Served t c since h (l.setMailbox u m) := by
  have hsame : ((l.setMailbox u m).mailbox t).listening = (l.mailbox t).listening
      ∧ ((l.setMailbox u m).mailbox t).events = (l.mailbox t).events := by
    rw [Ledger.setMailbox_mailbox]
    split
    case isTrue htu => exact htu ▸ ⟨hlistening, hevents⟩
    case isFalse => exact ⟨rfl, rfl⟩
  exact ⟨hs.route, hsame.1.trans hs.listening, hs.uncancelled, hs.held, hsame.2 ▸ hs.queue⟩

/-- More tickets are given out. -/
lemma later (hs : Served t c since h l) :
    Served t c since h { l with nextTicket := l.nextTicket + 1 } :=
  ⟨hs.route, hs.listening, hs.uncancelled, hs.held, hs.queue⟩

lemma opened (hs : Served t c since h l) (ha : Assigned h l) : (story t h).opened = some c :=
  ha.routed c t hs.route

/-- Whoever is served has a ticket. -/
lemma ticket_lt (hs : Served t c since h l) (hc : Correlated τ h l) : t.val < l.nextTicket := by
  by_contra hge
  have hnone := (hc.fresh t (Nat.le_of_not_lt hge)).2
  rcases hs.held with ⟨x, hx⟩ | ⟨sub, hsub, -⟩
  · cases hnone.symm.trans hx
  · cases hnone.symm.trans hsub

/-! ### Steps of the one who gets the events -/

/-- The caller becomes the consumer. -/
lemma «open» (hs : Served t c since h l) (topic : Topic) :
    Served t c since h
      ((l.setMailbox t (l.mailbox t).answered).setRole t (.consumer (.opened c topic t))) where
  route := hs.route
  listening := by simpa [Mailbox.answered] using hs.listening
  uncancelled := hs.uncancelled
  held := .inr ⟨.opened c topic t, by simp, rfl, rfl⟩
  queue := by simpa [Mailbox.answered] using hs.queue

lemma read (hs : Served t c since h l) {u : Update} {rest : List Update}
    (hevents : (l.mailbox t).events = u :: rest) :
    Served t c (since ++ [.yielded t u]) (h ++ [.yielded t u])
      (l.setMailbox t { l.mailbox t with events := rest }) where
  route := hs.route
  listening := by simpa using hs.listening
  uncancelled := by
    rw [Ledger.cancelCount, cancelNumbers_of_none rfl]
    exact hs.uncancelled
  held := hs.held
  queue := by
    have hqueue := hs.queue
    rw [hevents] at hqueue
    have hsince : eventsOf c (since ++ [.yielded t u]) = eventsOf c since := by
      rw [eventsOf, List.filterMap_append]
      exact List.append_nil _
    rw [hsince, ← hqueue]
    simp [Story.note]

/-- An event of the call goes into the queue. -/
lemma deliver (hs : Served t c since h l) {u : Update} (hu : u.call = c) :
    Served t c (since ++ [.handled (.event u)]) (h ++ [.handled (.event u)])
      (l.setMailbox t { l.mailbox t with events := (l.mailbox t).events ++ [u] }) where
  route := hs.route
  listening := by simpa using hs.listening
  uncancelled := by
    rw [Ledger.cancelCount, cancelNumbers_of_none rfl]
    exact hs.uncancelled
  held := hs.held
  queue := by
    rw [story_read_append (by simp), Ledger.setMailbox_mailbox, if_pos rfl, ← List.append_assoc,
      hs.queue]
    simp [eventsOf, Note.eventOf?, hu]

/-- A request is queued, of the same caller or of another one. -/
lemma queue_request (hs : Served t c since h l) {u : Ticket} {x y : Exchange} (now : Nat) :
    Served t c (since ++ [.queued u now]) (h ++ [.queued u now])
      ({ l with commands := l.commands ++ [x.command] }.setRole u (.caller y)) := by
  have hnext : Served t c (since ++ [.queued u now]) (h ++ [.queued u now])
      { l with commands := l.commands ++ [x.command] } :=
    hs.frame hs.route ⟨rfl, rfl⟩ rfl rfl rfl (by simp) rfl
  refine ⟨hnext.route, hnext.listening, hnext.uncancelled, ?_, hnext.queue⟩
  by_cases htu : t = u
  · exact .inl ⟨_, (Ledger.setRole_role ..).trans (if_pos htu)⟩
  · rw [Ledger.setRole_role, if_neg htu]
    exact hs.held

/-- The end is not found while there is a route. -/
lemma ne_of_never (hs : Served t c since h l) {u : Ticket} (hnever : l.mayDeliver u = false) :
    u ≠ t := by
  rintro rfl
  exact (Ledger.mayDeliver_eq_false.mp hnever).2.2 _ (Table.mem_of_find? hs.route) rfl

/-! ### Steps of others -/

/-- Another subscription is let go. -/
lemma release (hs : Served t c since h l) {u : Ticket} {sub : Subscription} {n : Note}
    {m : Mailbox} (hut : u ≠ t) (hcall : sub.call ≠ c)
    (hnote : n = .released u ∨ ∃ e, n = .returned u (.error e)) :
    Served t c (since ++ [n]) (h ++ [n])
      ({ l with cancels := if l.stopped then l.cancels else l.cancels ++ [sub.call] }.setMailbox u m
        |>.setRole u .none) := by
  have hcount : (if l.stopped then l.cancels else l.cancels ++ [sub.call]).count c
      = l.cancels.count c := by
    split
    case isTrue => rfl
    case isFalse =>
      rw [List.count_append, List.count_cons_of_ne hcall, List.count_nil, Nat.add_zero]
  have hqueued : Served t c since h
      { l with cancels := if l.stopped then l.cancels else l.cancels ++ [sub.call] } := by
    refine ⟨hs.route, hs.listening, ?_, hs.held, hs.queue⟩
    rw [Ledger.cancelCount, hcount]
    exact hs.uncancelled
  obtain rfl | ⟨e, rfl⟩ := hnote
  · exact hqueued.other hut rfl (by simp) rfl
  · exact hqueued.other hut rfl (by simp) rfl

/-- The client cancels another call. -/
lemma cancel (hs : Served t c since h l) {c' : CallId} {rest : List CallId}
    (hcancels : l.cancels = c' :: rest) :
    Served t c (since ++ [.cancelled l.nextId c']) (h ++ [.cancelled l.nextId c'])
      (l.cancelling c' rest) := by
  have hcount := hs.uncancelled
  rw [Ledger.cancelCount, hcancels] at hcount
  have hne : c' ≠ c := by
    rintro rfl
    rw [List.count_cons_self] at hcount
    omega
  refine hs.frame ?_ ⟨rfl, rfl⟩ ?_ ?_ rfl (by simp) rfl
  · exact (Table.find?_erase_of_ne hne _).trans hs.route
  · rw [hcancels, List.count_cons_of_ne hne]
    rfl
  · simp [cancelNumbers, Note.cancels?, hne]

/-- An event of another call comes to somebody else. -/
lemma deliver_other (hs : Served t c since h l) {u : Ticket} {m : Mailbox} {e : Update}
    (hut : u ≠ t) (hcall : e.call ≠ c) :
    Served t c (since ++ [.handled (.event e)]) (h ++ [.handled (.event e)])
      (l.setMailbox u m) := by
  refine hs.frame hs.route ?_ rfl rfl rfl (by simp) (by simp [eventsOf, Note.eventOf?, hcall])
  rw [Ledger.setMailbox_mailbox, if_neg hut.symm]
  exact ⟨rfl, rfl⟩

/-- The route of another call goes. -/
lemma unroute (hs : Served t c since h l) {e : Update} (hcall : e.call ≠ c) :
    Served t c (since ++ [.handled (.event e)]) (h ++ [.handled (.event e)])
      { l with routes := l.routes.erase e.call } :=
  hs.frame ((Table.find?_erase_of_ne hcall _).trans hs.route) ⟨rfl, rfl⟩ rfl rfl rfl (by simp)
    (by simp [eventsOf, Note.eventOf?, hcall])

/-- An event without this route is one of another call. -/
lemma call_ne (hs : Served t c since h l) {e : Update}
    (hfind : l.routes.find? e.call ≠ some t) : e.call ≠ c := by
  rintro rfl
  exact hfind hs.route

/-- A reply to a request that has had none opens no call that nobody had before. -/
lemma opened_ne (hc : Correlated τ h l) {u : Ticket} {id : RequestId} {r : Reply}
    (hid : r.request = some id) (hnumber : (story u h).number = some id)
    (hanswer : (story u h).answer = none)
    (hnew : ∀ v, (story v (h ++ [.handled (.reply r)])).opened = some c →
      (story v h).opened = some c) : Channel.opened? ⟨u, (story u h).routed⟩ r ≠ some c := by
  intro hcall
  have hanswered := Tended.answered_of_reply hc.apart hid hnumber hanswer
  have hopen := hnew u (hanswered.opened.trans hcall)
  rw [Story.opened_of_unanswered hanswer] at hopen
  cases hopen

lemma opened_ne_of_find (hc : Correlated τ h l) {id : RequestId} {w : Waiter} {r : Reply}
    (hid : r.request = some id) (hfind : l.pending.find? id = some w)
    (hnew : ∀ v, (story v (h ++ [.handled (.reply r)])).opened = some c →
      (story v h).opened = some c) : Channel.opened? w r ≠ some c := by
  obtain ⟨hnumber, hrouted, hanswer, -⟩ := hc.pending id w (Table.mem_of_find? hfind)
  have hne := opened_ne hc hid hnumber hanswer hnew
  rwa [hrouted] at hne

lemma resolving (hs : Served t c since h l) {id : RequestId} {w : Waiter} {r : Reply}
    (hne : Channel.opened? w r ≠ some c) :
    Served t c (since ++ [.handled (.reply r)]) (h ++ [.handled (.reply r)])
      (l.resolving id w r) := by
  refine hs.frame ?_ ⟨rfl, rfl⟩ rfl rfl rfl (by simp) rfl
  cases hcall : Channel.opened? w r with
  | none =>
    rw [Ledger.resolving_routes_of_none hcall]
    exact hs.route
  | some c' =>
    rw [Ledger.resolving_routes_of_some hcall,
      Table.find?_insert_of_ne fun hcc => hne (hcall.trans (congrArg some hcc))]
    exact hs.route

/-- Another call is to be cancelled before all others. -/
lemma queue_cancel (hs : Served t c since h l) {call : Option CallId} (hne : call ≠ some c) :
    Served t c since h { l with cancels := call.toList ++ l.cancels } := by
  refine ⟨hs.route, hs.listening, ?_, hs.held, hs.queue⟩
  cases call with
  | none => exact hs.uncancelled
  | some c' =>
    rw [Ledger.cancelCount, Option.toList_some, List.singleton_append,
      List.count_cons_of_ne fun hcc => hne (congrArg some hcc)]
    exact hs.uncancelled

lemma step (hs : Served t c since h l) (ha : Assigned h l) (hc : Correlated τ h l)
    (hstep : Ledger.Step τ l h' l') (hrun : l'.stopped = false)
    (hend : (story t (h ++ h')).ending = none)
    (hnew : ∀ u, (story u (h ++ h')).opened = some c → (story u h).opened = some c) :
    Served t c (since ++ h') (h ++ h') l' ∨ LetsGo t c h h' l := by
  have hold := hs.ticket_lt hc
  have hopen := hs.opened ha
  -- Those who leave are others.
  have hleft : ∀ {u n}, (u = t → (story u (h ++ [n])).ending ≠ none) →
      (story t (h ++ [n])).ending = none → u ≠ t := by
    rintro u n hu hend rfl
    exact hu rfl hend
  cases hstep with
  | enter x hx hstage =>
    refine .inl (hs.later.other ?_ rfl nofun rfl)
    rintro rfl
    omega
  | ticket =>
    refine .inl (hs.later.setRole ?_ rfl nofun rfl)
    rintro rfl
    exact Nat.lt_irrefl _ hold
  | queue now hrun hrole ht hstage => exact .inl (hs.queue_request now)
  | order hrun hnone => exact .inl (hs.frame hs.route ⟨rfl, rfl⟩ rfl rfl rfl nofun rfl)
  | fail e hrole hreply =>
    refine .inl (hs.other (hleft ?_ hend) rfl (by simp) rfl)
    simp [Story.note, keeps]
  | finish hrole hrouted hkeeps =>
    refine .inl (hs.other (hleft ?_ hend) rfl (by simp) rfl)
    simp [Story.note, hkeeps]
  | abandon hrole =>
    refine .inl (hs.other (hleft ?_ hend) rfl (by simp) rfl)
    simp [Story.note]
  | @«open» u x r c' topic hrole hrouted hreply hrejection hcall =>
    by_cases hut : u = t
    · subst hut
      obtain rfl : c' = c := by
        rw [Tended.opened_of_awaits (hc.caller u x hrole), hreply] at hopen
        simpa [Channel.opened?, hrouted, hrejection, hcall] using hopen
      rw [List.append_nil, List.append_nil]
      exact .inl (hs.open topic)
    · exact .inl (hs.other hut rfl nofun rfl)
  | tell hkeeps => exact .inl (hs.frame hs.route ⟨rfl, rfl⟩ rfl rfl rfl (by simp) rfl)
  | @release u sub n hrole hstate hnote =>
    have hending := (Tended.story_left (ha.consumer u sub hrole).1 hnote).2.2
    have hut : u ≠ t := hleft (fun _ => hending ▸ Option.some_ne_none _) hend
    by_cases hcall : sub.call = c
    · exact .inr ⟨u, sub, hut, hrole, hcall, hstate, hending⟩
    · exact .inl (hs.release hut hcall hnote)
  | @drop u sub n hrole hstate hnote =>
    have hending := (Tended.story_left (ha.consumer u sub hrole).1 hnote).2.2
    have hut : u ≠ t := hleft (fun _ => hending ▸ Option.some_ne_none _) hend
    obtain rfl | ⟨e, rfl⟩ := hnote
    · exact .inl (hs.setRole hut rfl (by simp) rfl)
    · exact .inl (hs.setRole hut rfl (by simp) rfl)
  | @read u sub e rest hrole hevents =>
    by_cases htu : t = u
    · subst htu
      exact .inl (hs.read hevents)
    · refine .inl (hs.frame hs.route ?_ rfl rfl rfl (by simp [htu]) rfl)
      rw [Ledger.setMailbox_mailbox, if_neg htu]
      exact ⟨rfl, rfl⟩
  | close hrole hevents hnever => exact .inl (hs.setRole (hs.ne_of_never hnever) rfl nofun rfl)
  | sweep hrun => exact .inl (hs.frame hs.route ⟨rfl, rfl⟩ rfl rfl rfl nofun rfl)
  | number hrun hhand hcommands =>
    exact .inl (hs.frame hs.route ⟨rfl, rfl⟩ rfl rfl rfl (by simp) rfl)
  | cancel hrun hhand hcancels => exact .inl (hs.cancel hcancels)
  | write hrun hhand => exact .inl (hs.frame hs.route ⟨rfl, rfl⟩ rfl rfl rfl nofun rfl)
  | stop => cases hrun
  | answer hrun hid hfind hwaiting =>
    exact .inl ((hs.resolving (opened_ne_of_find hc hid hfind hnew)).setMailbox rfl rfl)
  | late hrun hid hfind hgone =>
    have hne := opened_ne_of_find hc hid hfind hnew
    exact .inl ((hs.resolving hne).queue_cancel hne)
  | @forgotten id r hrun hid hfind hmem =>
    obtain ⟨u, hnumber, hrouted, hanswer, -⟩ := hc.abandoned id hmem
    have hne := opened_ne hc hid hnumber hanswer hnew
    rw [Channel.opened_eq_accepted hrouted] at hne
    exact .inl ((hs.queue_cancel hne).frame hs.route ⟨rfl, rfl⟩ rfl rfl rfl (by simp) rfl)
  | pass hrun hnone => exact .inl (hs.frame hs.route ⟨rfl, rfl⟩ rfl rfl rfl (by simp) rfl)
  | @deliver u e hrun hfind hlistening =>
    by_cases hcall : e.call = c
    · rw [hcall, hs.route] at hfind
      obtain rfl := Option.some.inj hfind
      exact .inl (hs.deliver hcall)
    · refine .inl (hs.deliver_other ?_ hcall)
      rintro rfl
      exact hcall (Option.some.inj ((ha.routed _ _ hfind).symm.trans hopen))
  | unroute hrun hfind hlistening =>
    refine .inl (hs.unroute (hs.call_ne ?_))
    rw [hfind]
    rintro ⟨⟩
    cases hlistening.symm.trans hs.listening
  | miss hrun hfind =>
    have hcall := hs.call_ne (by rw [hfind]; rintro ⟨⟩)
    exact .inl (hs.frame hs.route ⟨rfl, rfl⟩ rfl rfl rfl (by simp)
      (by simp [eventsOf, Note.eventOf?, hcall]))
  | @other f hrun hreply hevent =>
    refine .inl (hs.frame hs.route ⟨rfl, rfl⟩ rfl rfl rfl (by simp) ?_)
    cases f with
    | event u => exact absurd rfl (hevent u)
    | _ => rfl

end Served

/-! ### Leaving -/

/-- Who has left has left in one way. -/
lemma story_ending_step (ha : Assigned h l) (hc : Correlated τ h l) (hs : Ledger.Step τ l h' l')
    (hend : (story t h).ending ≠ none) : (story t (h ++ h')).ending = (story t h).ending := by
  have hgone : ∀ u, l.role u ≠ .none → t ≠ u := by
    rintro u hrole rfl
    cases hr : l.role t with
    | none => exact hrole hr
    | caller x => exact hend (hc.caller t x hr).ending
    | consumer sub => exact hend (ha.consumer t sub hr).2
  have hparty : ∀ {n u r}, l.role u = r → r ≠ .none → n.party? = some u →
      (story t (h ++ [n])).ending = (story t h).ending := by
    rintro n u r rfl hr hn
    exact story_ending_of_party hn (hgone u hr)
  cases hs with
  | fail e hrole | finish hrole | abandon hrole => exact hparty hrole nofun rfl
  | release hrole _ hnote | drop hrole _ hnote =>
    obtain rfl | ⟨e, rfl⟩ := hnote <;> exact hparty hrole nofun rfl
  | read hrole => exact hparty hrole nofun rfl
  | tell hkeeps => rw [story_append_singleton, Story.note_of_keeps hkeeps]
  | enter | ticket | order | «open» | close | sweep | write => rw [List.append_nil]
  | queue | number | cancel | stop | answer | late | forgotten | pass | deliver | unroute | miss
  | other => exact story_ending_of_none rfl

namespace Ledger

/-- Nobody acts on a ticket any more, or its subscription has come to its end. -/
structure Over (t : Ticket) (l : Ledger) : Prop where
  known : t.val < l.nextTicket
  role : l.role t = .none ∨ ∃ sub, l.role t = .consumer sub ∧ sub.state ≠ .subscribed

lemma Step.over (ho : l.Over t) (hs : Step τ l h l') : l'.Over t := by
  have hcaller : ∀ {u x}, l.role u = .caller x → t ≠ u := by
    rintro u x hx rfl
    obtain hnone | ⟨sub, hsub, -⟩ := ho.role
    · cases hx.symm.trans hnone
    · cases hx.symm.trans hsub
  have hticket := hs.nextTicket
  refine ⟨ho.known.trans_le hticket, ?_⟩
  cases hs with
  | enter x hx =>
    have hne : t ≠ x.ticket := by
      rintro rfl
      exact ho.known.ne hx
    rw [setRole_role, if_neg hne]
    exact ho.role
  | ticket =>
    have hne : t ≠ ⟨l.nextTicket⟩ := by
      rintro rfl
      exact Nat.lt_irrefl _ ho.known
    rw [setRole_role, if_neg hne]
    exact ho.role
  | queue _ _ hrole | fail _ hrole | finish hrole | abandon hrole | «open» _ hrole =>
    rw [setRole_role, if_neg (hcaller hrole)]
    exact ho.role
  | release | drop =>
    rw [setRole_role]
    split
    case isTrue => exact .inl rfl
    case isFalse => exact ho.role
  | close hrole =>
    rw [setRole_role]
    split
    case isTrue => exact .inr ⟨_, rfl, nofun⟩
    case isFalse => exact ho.role
  | tell | order | read | sweep | number | cancel | write | stop | answer | late | forgotten | pass
  | deliver | unroute | miss | other => exact ho.role

lemma Steps.over (ho : l.Over t) (hs : l.Steps τ h l') : l'.Over t := by
  induction hs with
  | refl => exact ho
  | tail _ last ih => exact last.over ih

lemma Step.stopped (hs : Step τ l h l') (hrun : l'.stopped = false) : l.stopped = false := by
  by_contra hstop
  cases hrun.symm.trans (hs.rests (eq_true_of_ne_false hstop)).stopped

end Ledger

/-- What somebody gets is kept along several steps if nobody else lets go of a subscription that
still has the call. -/
theorem Served.steps {since : List Note} (hstart : Ledger.start.Steps τ h l)
    (hs : Served t c since h l) (hsteps : l.Steps τ h' l')
    (hlen : (numbered (h ++ h')).length ≤ UInt64.size) (hrun : l'.stopped = false)
    (hend : (story t (h ++ h')).ending = none)
    (hnew : ∀ u, (story u (h ++ h')).opened = some c → (story u h).opened = some c)
    (hspared : ∀ u, u ≠ t → (story u h).opened = some c → (story u h).ending = none →
      (story u (h ++ h')).ending = some .released → l.Over u) :
    Served t c (since ++ h') (h ++ h') l' := by
  induction hsteps with
  | refl => rwa [List.append_nil, List.append_nil]
  | @tail l₁ l₂ h₁ h₂ first last ih =>
    rw [← List.append_assoc] at hlen hend hnew hspared ⊢
    have hlen₁ := numbered_length_of_append hlen
    have hstart₁ := hstart.trans first
    have ha := assigned_of_steps hstart₁ hlen₁
    have hc := correlated_of_steps hstart₁ hlen₁
    have hs₁ : Served t c (since ++ h₁) (h ++ h₁) l₁ := by
      refine ih hlen₁ (last.stopped hrun) ?_ ?_ ?_
      · by_contra hne
        exact story_ending_append hne hend
      · exact fun u hu => hnew u (story_opened_append hu)
      · intro u hut hopen hbefore hleft
        refine hspared u hut hopen hbefore ?_
        rw [story_ending_step ha hc last (by simp [hleft]), hleft]
    rw [← List.append_assoc]
    refine Or.resolve_right
      (hs₁.step ha hc last hrun hend fun u hu => story_opened_append (hnew u hu)) ?_
    rintro ⟨u, sub, hut, hrole, rfl, hstate, hleft⟩
    obtain ⟨hopen, hend₁⟩ := ha.consumer u sub hrole
    -- Whoever lets go of the call has had it before, and its subscription had not come to its end.
    have hover : l.Over u := by
      refine hspared u hut (hnew u (story_opened_append hopen)) ?_ hleft
      by_contra hne
      exact story_ending_append hne hend₁
    obtain hnone | ⟨sub', hsub, hclosed⟩ := (first.over hover).role
    · cases hrole.symm.trans hnone
    · obtain rfl : sub = sub' := by
        have := hrole.symm.trans hsub
        injection this
      exact hclosed hstate

/-! ### Runs -/

lemma mem_askers_of_opened (hc : (story t h).opened = some c) : t ∈ askers h := by
  refine mem_askers_of_number (story_answered t h fun hanswer => ?_)
  rw [Story.opened_of_unanswered hanswer] at hc
  cases hc

/-- No call of a name is opened with some notes, but for somebody's own. -/
def Newest (t : Ticket) (c : CallId) (h h' : List Note) : Prop :=
  ∀ u, (story u (h ++ h')).opened = some c → u = t ∨ (story u h).opened = some c

instance (t : Ticket) (c : CallId) (h h' : List Note) : Decidable (Newest t c h h') :=
  decidable_of_iff (∀ u ∈ askers (h ++ h'), (story u (h ++ h')).opened = some c →
      u = t ∨ (story u h).opened = some c)
    ⟨fun hall u hu => hall u (mem_askers_of_opened hu) hu, fun hall u _ => hall u⟩

namespace System

/-- The dispatcher is about to take the reply that opens a call for somebody who waits for it. -/
structure Grants (s : System) (h : List Note) (t : Ticket) (c : CallId) : Prop where
  reply : ∃ text rest r, s.channel.task? = some (.receive text rest)
    ∧ Frame.decode text = .reply r ∧ r.request = (story t h).number ∧ r.rejection = none
    ∧ r.call = some c
  number : (story t h).number ≠ none
  unanswered : (story t h).answer = none
  routed : (story t h).routed = true
  waiting : (s.channel.mailbox t).waiting = true

/-- Of the subscriptions of a call that others have, those that are let go have come to an end. -/
def Spares (t : Ticket) (c : CallId) : List Act → List Note → System → Prop
  | [], _, _ => True
  | a :: as, h, s =>
    (∀ u, u ≠ t → (story u h).opened = some c → (story u h).ending = none →
      (story u (h ++ s.notes a)).ending = some .released →
      (s.parties.find? u).any Party.isClosed = true)
    ∧ Spares t c as (h ++ s.notes a) (s.act a)

instance : ∀ (t : Ticket) (c : CallId) (as : List Act) (h : List Note) (s : System),
    Decidable (Spares t c as h s)
  | _, _, [], _, _ => .isTrue trivial
  | t, c, a :: as, h, s =>
    have := instDecidableSpares t c as (h ++ s.notes a) (s.act a)
    decidable_of_iff ((∀ u ∈ askers h, u ≠ t → (story u h).opened = some c →
        (story u h).ending = none → (story u (h ++ s.notes a)).ending = some .released →
        (s.parties.find? u).any Party.isClosed = true)
      ∧ Spares t c as (h ++ s.notes a) (s.act a))
      (and_congr_left fun _ => ⟨fun hall u hut hu => hall u (mem_askers_of_opened hu) hut hu,
        fun hall u _ => hall u⟩)

/-- A subscription that has found its end is over. -/
lemma over_of_isClosed {s : System} (hs : Ledger.start.Steps τ h s.ledger) {u : Ticket}
    (hclosed : (s.parties.find? u).any Party.isClosed = true) : s.ledger.Over u := by
  obtain ⟨p, hparty, hp⟩ := (Option.any_eq_true ..).mp hclosed
  have hrole : s.ledger.role u = p.role := role_of_party hparty
  unfold Party.isClosed at hp
  split at hp
  case h_1 sub hsub =>
    rw [hsub] at hrole
    refine ⟨(Ledger.settled_of_steps hs).fresh u (by rw [hrole]; exact nofun),
      .inr ⟨sub, hrole, ?_⟩⟩
    rw [of_decide_eq_true hp]
    exact nofun
  case h_2 => cases hp

variable {setting : Setting} {textRoom : Nat} {s : System}

/-- The caller of a call that is opened gets its events from now on. -/
lemma Grants.served (hg : s.Grants h t c) (hrun : Run setting textRoom h s)
    (hlen : (numbered h).length ≤ UInt64.size) :
    Served t c (s.notes .dispatch) (h ++ s.notes .dispatch) (s.act .dispatch).ledger := by
  obtain ⟨⟨text, rest, r, htask, htext, hid, hrejection, hcall⟩, hnumber, hanswer, hrouted,
    hwaiting⟩ := hg
  obtain ⟨hsteps, -, -⟩ := hrun.steps
  have hc := correlated_of_steps hsteps hlen
  obtain ⟨x, hx⟩ := hc.waiting t hwaiting
  have hrunning : s.channel.isStopped = false := Channel.isStopped_of_task htask
  have hfate : s.channel.fateOf r = .answers ⟨t, true⟩ := by
    obtain ⟨id, hsome⟩ := Option.ne_none_iff_exists'.mp hnumber
    rw [Channel.fateOf, hid, hsome]
    exact (Channel.fate_eq_answers hc hrunning).mpr ⟨hsome, hanswer, hrouted, hwaiting⟩
  have hact : (s.act .dispatch).channel = s.channel.perform (.receive text rest) := by
    simp only [System.act, Channel.step?_eq, htask]
    rfl
  have hopened : Channel.opened? ⟨t, true⟩ r = some c := by
    simp [Channel.opened?, hrejection, hcall]
  have hafter := Channel.untracked_perform_reply s.channel rest htext
  rw [← hact, hfate, Channel.respond, hopened] at hafter
  -- The tables of requests do not matter to the one who gets the events.
  have hledger : (s.act .dispatch).channel.untracked.ledger s.role
      = { s.ledger with
          pending := []
          abandoned := []
          routes := s.ledger.routes.insert c t }.setMailbox t
            { s.ledger.mailbox t with reply := some r } := by
    have hleft : (s.channel.mailbox t) ≠ .left := Channel.mailbox_ne_left_of_waiting hwaiting
    rw [hafter, Channel.ledger_publish]
    exact Channel.ledger_updateMailbox (.inl hleft)
  have hnotes : s.notes .dispatch = [.handled (.reply r)] := by
    have hnext : (s.act .dispatch).channel.untracked.nextId = s.channel.nextId := by
      rw [hafter, Channel.nextId_publish]
      rfl
    have hstop : (s.act .dispatch).channel.untracked.isStopped = s.channel.isStopped := by
      rw [hafter, Channel.isStopped_publish]
      rfl
    simp only [notes, doings, htask, Channel.taskNotes, htext, ← hact]
    exact Channel.replyNotes_of_eq hnext hstop
  have hcancels : s.channel.cancels = [] := (Channel.task?_eq_receive.mp htask).cancels
  have hqueue : (s.channel.mailbox t).events = [] :=
    (assigned_of_steps hsteps hlen).unanswered t hanswer
  have hlistening : (s.channel.mailbox t).listening = true := by
    have hawaits := hc.caller t x hx
    exact hawaits.listening.trans ((hawaits.routed hnumber).symm.trans hrouted)
  rw [hnotes]
  exact {
    route := by
      change ((s.act .dispatch).channel.untracked.ledger s.role).routes.find? c = some t
      rw [hledger]
      exact Table.find?_insert_self ..
    listening := by
      change (((s.act .dispatch).channel.untracked.ledger s.role).mailbox t).listening = true
      rw [hledger, Ledger.setMailbox_mailbox, if_pos rfl]
      exact hlistening
    uncancelled := by
      change ((s.act .dispatch).channel.untracked.ledger s.role).cancels.count c + 0 = 0
      rw [hledger]
      exact congrArg (List.count c) hcancels
    held := .inl ⟨x, hx⟩
    queue := by
      rw [story_read_append (by simp), unread_of_steps hsteps hlen hanswer]
      change (((s.act .dispatch).channel.untracked.ledger s.role).mailbox t).events = []
      rw [hledger, Ledger.setMailbox_mailbox, if_pos rfl]
      exact hqueue }

end System

section

variable {setting : Setting} {textRoom : Nat} {s : System}

/-- What somebody gets is kept along a run. -/
lemma Served.play {since : List Note} (hs : Served t c since h s.ledger)
    (hrun : Run setting textRoom h s) (as : List System.Act)
    (hlen : (numbered (h ++ s.log as)).length ≤ UInt64.size)
    (hrunning : (s.play as).channel.isStopped = false)
    (hend : (story t (h ++ s.log as)).ending = none)
    (hnew : ∀ u, (story u (h ++ s.log as)).opened = some c → (story u h).opened = some c)
    (hspares : s.Spares t c as h) :
    Served t c (since ++ s.log as) (h ++ s.log as) (s.play as).ledger := by
  induction as generalizing h s since with
  | nil => simpa only [System.log, System.play, List.append_nil] using hs
  | cons a as ih =>
    obtain ⟨hsteps, hfits, hconfig⟩ := hrun.steps
    rw [← hconfig] at hsteps
    obtain ⟨hspared, hspares⟩ := hspares
    rw [System.log, ← List.append_assoc] at hlen hend hnew ⊢
    rw [← List.append_assoc]
    have hnext : Served t c (since ++ s.notes a) (h ++ s.notes a) (s.act a).ledger := by
      refine hs.steps hsteps (System.takes_act a hfits).steps (numbered_length_of_append hlen)
        (System.running_of_play hrunning) ?_ (fun u hu => hnew u (story_opened_append hu)) ?_
      · by_contra hne
        exact story_ending_append hne hend
      · intro u hut hopen hbefore hleft
        exact System.over_of_isClosed hsteps (hspared u hut hopen hbefore hleft)
    exact ih hnext (hrun.act a) hlen hrunning hend
      (fun u hu => story_opened_append (hnew u hu)) hspares

/-- Somebody holds the newest subscription of a call, and gets its events. Some notes are those
since the reply that has opened the call. -/
structure System.Serves (s : System) (t : Ticket) (c : CallId) (since h : List Note) : Prop where
  route : s.channel.routes.find? c = some t
  /-- The client does not cancel the call, and has not cancelled it. -/
  uncancelled : c ∉ s.channel.cancels ∧ cancelNumbers c since = []
  held : ∃ p, s.parties.find? t = some p ∧ p.isClosed = false
  /-- All events of the call have been read, or are in the queue. -/
  queue : (story t h).read ++ (s.channel.mailbox t).events = eventsOf c since
  /-- Whoever reads until there is nothing has read all. -/
  dry : ∀ p, s.parties.find? t = some p → p.isDry s.channel = true →
    (story t (h ++ s.notes (.read t))).read = eventsOf c since

lemma Served.serves {since : List Note} (hs : Served t c since h s.ledger) (hfits : s.Fits) :
    s.Serves t c since h := by
  have hcount := hs.uncancelled
  rw [Ledger.cancelCount, Nat.add_eq_zero_iff] at hcount
  have hqueue : (story t h).read ++ (s.channel.mailbox t).events = eventsOf c since := hs.queue
  have hrole : ∀ p, s.parties.find? t = some p → p.role = s.ledger.role t := fun p hparty =>
    (System.role_of_party hparty).symm
  refine ⟨hs.route, ⟨List.count_eq_zero.mp hcount.1, List.length_eq_zero_iff.mp hcount.2⟩, ?_,
    hqueue, fun p hparty hdry => ?_⟩
  · have hne : s.ledger.role t ≠ .none := by
      rcases hs.held with ⟨x, hx⟩ | ⟨sub, hsub, -⟩
      · simp [hx]
      · simp [hsub]
    obtain ⟨p, hparty, hp⟩ := System.role_eq rfl hne
    refine ⟨p, hparty, ?_⟩
    rcases hs.held with ⟨x, hx⟩ | ⟨sub, hsub, -, hstate⟩
    · simp [Party.isClosed, hp, hx]
    · simp [Party.isClosed, hp, hsub, hstate]
  · have hp : p.isCalling = false := by cases p <;> first | rfl | cases hdry
    rcases hs.held with ⟨x, hx⟩ | ⟨sub, hsub, -, hstate⟩
    · have hcaller := (hrole p hparty).trans hx
      cases p with
      | calling op => cases hp
      | holding | streaming => cases hcaller
    · have hconsumer := (hrole p hparty).trans hsub
      have hempty := Party.events_of_isDry hconsumer (fun hne => absurd hstate hne) hdry
      rw [Party.ticket_of_fits (hfits t p hparty) hconsumer] at hempty
      rw [System.notes_read hparty hp, story_yielded, ← hqueue]
      simp [takenEvents, hempty]

/-- In every run, somebody who waits and gets the reply that opens a call has its route from then
on, and gets its events, until a later reply opens the same call for somebody else: whoever has an
older subscription of that call may let it go at any time once it has come to its end. -/
theorem Run.newest_served (hrun : Run setting textRoom h s) (hgrants : s.Grants h t c)
    (as : List System.Act)
    (hlen : (numbered (h ++ s.log (.dispatch :: as))).length ≤ UInt64.size)
    (hrunning : (s.play (.dispatch :: as)).channel.isStopped = false)
    (hheld : (story t (h ++ s.log (.dispatch :: as))).ending = none)
    (hnewest : Newest t c h (s.log (.dispatch :: as)))
    (hspares : (s.act .dispatch).Spares t c as (h ++ s.notes .dispatch)) :
    (s.play (.dispatch :: as)).Serves t c (s.log (.dispatch :: as))
      (h ++ s.log (.dispatch :: as)) := by
  have hlen' := numbered_length_of_append hlen
  have hserved := hgrants.served hrun hlen'
  have hnext := hrun.act .dispatch
  obtain ⟨hsteps, -, -⟩ := hnext.steps
  rw [Newest, System.log, ← List.append_assoc] at hnewest
  rw [System.log, ← List.append_assoc] at hlen hheld ⊢
  refine (hserved.play hnext as hlen hrunning hheld (fun u hu => ?_) hspares).serves
    (hnext.play as).steps.2.1
  rcases hnewest u hu with rfl | hopen
  · exact hserved.opened (assigned_of_steps hsteps (numbered_length_of_append hlen))
  · exact story_opened_append hopen

end

namespace Channel.Task

/-- The text that is taken, and those after it. -/
def texts? : Task → Option (String × List String)
  | .receive text rest => some (text, rest)
  | _ => none

lemma eq_receive {task? : Option Task} {text : String} {rest : List String}
    (h : task?.bind texts? = some (text, rest)) : task? = some (.receive text rest) := by
  obtain ⟨task, rfl, htask⟩ := Option.bind_eq_some_iff.mp h
  cases task with
  | receive text' rest' =>
    obtain ⟨rfl, rfl⟩ := Prod.mk.inj (Option.some.inj htask)
    rfl
  | _ => cases htask

end Channel.Task

namespace System

/-- Two subscriptions. The server is about to give the second one the name of the first one's
call. -/
def reusing : List Act :=
  [.subscribe (.time "simulator" "realtime"), .look ⟨0⟩, .dispatch, .push (openingText 1 5),
    .dispatch, .look ⟨0⟩, .subscribe (.links "simulator"), .look ⟨1⟩, .dispatch,
    .push (openingText 2 5)]

/-- The first subscription finds its end, and is let go. The second one gets an event. -/
def readAndReleased : List Act :=
  [.look ⟨1⟩, .read ⟨0⟩, .release ⟨0⟩, .push (eventText 5 0), .dispatch, .read ⟨1⟩]

/-- The first subscription is let go without another look. An event comes after the cancel. -/
def releasedUnread : List Act :=
  [.look ⟨1⟩, .release ⟨0⟩, .dispatch, .push (eventText 5 0), .dispatch, .read ⟨1⟩]

lemma grants_reusing :
    (plain.play reusing).Grants (plain.log reusing) ⟨1⟩ ⟨5⟩ where
  reply := ⟨openingText 2 5, [], ⟨some ⟨5⟩, some ⟨2⟩, none⟩,
    Channel.Task.eq_receive (by decide +kernel), Frame.eq_of_reply? (by decide +kernel),
    by decide +kernel, rfl, rfl⟩
  number := by decide +kernel
  unanswered := by
    rw [← Option.isNone_iff_eq_none]
    decide +kernel
  routed := by decide +kernel
  waiting := by decide +kernel

end System

/-- The second subscription has got its event, and its call is not cancelled. -/
theorem Run.newest_served_read :
    (System.plain.play System.reusing).Grants (System.plain.log System.reusing) ⟨1⟩ ⟨5⟩
      ∧ (numbered (System.plain.log System.reusing ++ (System.plain.play System.reusing).log
          (.dispatch :: System.readAndReleased))).length ≤ UInt64.size
      ∧ ((System.plain.play System.reusing).play
          (.dispatch :: System.readAndReleased)).channel.isStopped = false
      ∧ (story ⟨1⟩ (System.plain.log System.reusing ++ (System.plain.play System.reusing).log
          (.dispatch :: System.readAndReleased))).ending = none
      ∧ (story ⟨0⟩ (System.plain.log System.reusing ++ (System.plain.play System.reusing).log
          (.dispatch :: System.readAndReleased))).ending = some .released
      ∧ (eventsOf ⟨5⟩ ((System.plain.play System.reusing).log
          (.dispatch :: System.readAndReleased))).length = 1
      ∧ ((System.plain.play System.reusing).play (.dispatch :: System.readAndReleased)).Serves
        ⟨1⟩ ⟨5⟩ ((System.plain.play System.reusing).log (.dispatch :: System.readAndReleased))
        (System.plain.log System.reusing ++ (System.plain.play System.reusing).log
          (.dispatch :: System.readAndReleased)) := by
  have hlen : (numbered (System.plain.log System.reusing ++ (System.plain.play System.reusing).log
      (.dispatch :: System.readAndReleased))).length ≤ UInt64.size := by
    decide +kernel
  have hrunning : ((System.plain.play System.reusing).play
      (.dispatch :: System.readAndReleased)).channel.isStopped = false := by
    decide +kernel
  have hheld : (story ⟨1⟩ (System.plain.log System.reusing ++ (System.plain.play
      System.reusing).log (.dispatch :: System.readAndReleased))).ending = none := by
    decide +kernel
  refine ⟨System.grants_reusing, hlen, hrunning, hheld, by decide +kernel, by decide +kernel, ?_⟩
  exact (Run.plain System.reusing).newest_served System.grants_reusing System.readAndReleased hlen
    hrunning hheld (by decide +kernel) (by decide +kernel)

/-- A subscription that is let go before it has come to its end takes the call of the newer one with
it: the client cancels the call, and the event goes nowhere. -/
theorem Run.newest_robbed :
    (System.plain.play System.reusing).Grants (System.plain.log System.reusing) ⟨1⟩ ⟨5⟩
      ∧ (story ⟨1⟩ (System.plain.log System.reusing ++ (System.plain.play System.reusing).log
          (.dispatch :: System.releasedUnread))).ending = none
      ∧ ((System.plain.play System.reusing).play
          (.dispatch :: System.releasedUnread)).channel.isStopped = false
      ∧ ((System.plain.play System.reusing).play
          (.dispatch :: System.releasedUnread)).channel.routes.find? ⟨5⟩ = none
      ∧ cancelNumbers ⟨5⟩ ((System.plain.play System.reusing).log
          (.dispatch :: System.releasedUnread)) = [⟨3⟩]
      ∧ (eventsOf ⟨5⟩ ((System.plain.play System.reusing).log
          (.dispatch :: System.releasedUnread))).length = 1
      ∧ (story ⟨1⟩ (System.plain.log System.reusing ++ (System.plain.play System.reusing).log
          (.dispatch :: System.releasedUnread))).read.length = 0
      ∧ (((System.plain.play System.reusing).play
          (.dispatch :: System.releasedUnread)).channel.mailbox ⟨1⟩).events.length = 0 := by
  refine ⟨System.grants_reusing, ?_⟩
  decide +kernel

end GroundLink.Connection
