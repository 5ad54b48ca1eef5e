import GroundLink.Proofs.Connection.Relaying

/-!
# When the dispatcher has stopped

Whatever the dispatcher stops for, it takes with it what it has queued and tracked. Whoever waits
for a reply finds the connection closed, and so does whoever comes later. A consumer still gets what
is in its queue and then finds the end; nothing is written for it any more.
-/

namespace GroundLink.Connection

open Protocol

variable {τ : Nat} {h h' : List Note} {l l' : Ledger} {t : Ticket}

/-! ### Ledgers -/

namespace Ledger

lemma mayDeliver_eq_false : l.mayDeliver t = false
    ↔ (∀ c ∈ l.commands, c.routes t = false)
      ∧ (∀ p ∈ l.pending, p.2.ticket = t → p.2.routed = false) ∧ ∀ p ∈ l.routes, p.2 ≠ t := by
  simp [mayDeliver, and_assoc]

lemma setMailbox_self (t : Ticket) (l : Ledger) : l.setMailbox t (l.mailbox t) = l := by
  rw [setMailbox, Function.update_eq_self]

lemma reply_of_setMailbox {m : Mailbox} {u : Ticket} {r : Reply}
    (hreply : ∀ r, m.reply = some r → (l.mailbox t).reply = some r)
    (hr : ((l.setMailbox t m).mailbox u).reply = some r) : (l.mailbox u).reply = some r := by
  rw [setMailbox_mailbox] at hr
  split at hr
  case isTrue hu => exact hu ▸ hreply r hr
  case isFalse => exact hr

lemma Empty.mayDeliver (hl : l.Empty) (t : Ticket) : l.mayDeliver t = false := by
  simp [mayDeliver_eq_false, hl.commands, hl.pending, hl.routes]

/-- Tickets are given out in their order. A consumer has its call, or has found its end. Only those
who wait for a reply have one at hand. -/
structure Settled (l : Ledger) : Prop where
  fresh : ∀ t, l.role t ≠ .none → t.val < l.nextTicket
  consumer : ∀ t sub, l.role t = .consumer sub → sub.state = .subscribed
    ∨ sub.state = .closed ∧ (l.mailbox t).events = [] ∧ l.mayDeliver t = false
  caller : ∀ t, (l.mailbox t).waiting = true ∨ (l.mailbox t).reply ≠ none →
    ∃ x, l.role t = .caller x

namespace Settled

/-- A step after which all parties and mailboxes are the same, and there are no new ways to
consumers that have found their end. -/
lemma frame (hl : l.Settled) (hticket : l.nextTicket ≤ l'.nextTicket) (hrole : l'.role = l.role)
    (hmailbox : l'.mailbox = l.mailbox)
    (hways : ∀ t sub, l.role t = .consumer sub → l.mayDeliver t = false →
      l'.mayDeliver t = false) : l'.Settled where
  fresh := fun t ht => (hl.fresh t (hrole ▸ ht)).trans_le hticket
  consumer := by
    intro t sub ht
    rw [hrole] at ht
    rw [hmailbox]
    exact (hl.consumer t sub ht).imp_right fun ⟨hclosed, hnil, hnever⟩ =>
      ⟨hclosed, hnil, hways t sub ht hnever⟩
  caller := by
    rw [hrole, hmailbox]
    exact hl.caller

/-- Only the ways to consumers change, and none leads to whom no other has led. -/
lemma ways (hl : l.Settled) (hrole : l'.role = l.role) (hmailbox : l'.mailbox = l.mailbox)
    (hticket : l'.nextTicket = l.nextTicket)
    (hcommands : ∀ c ∈ l'.commands, c ∈ l.commands ∨ ∀ t sub, l.role t = .consumer sub →
      c.routes t = false)
    (hpending : ∀ p ∈ l'.pending, p ∈ l.pending ∨ ∀ t, l.mayDeliver t = false →
      p.2.ticket = t → p.2.routed = false)
    (hroutes : ∀ p ∈ l'.routes, p ∈ l.routes ∨ l.mayDeliver p.2 = true) : l'.Settled := by
  refine hl.frame hticket.ge hrole hmailbox fun t sub ht hnever => ?_
  obtain ⟨h₁, h₂, h₃⟩ := mayDeliver_eq_false.mp hnever
  refine mayDeliver_eq_false.mpr ⟨fun c hc => ?_, fun p hp => ?_, fun p hp hpt => ?_⟩
  · exact (hcommands c hc).elim (h₁ c) fun hc => hc t sub ht
  · exact (hpending p hp).elim (h₂ p) fun hp => hp t hnever
  · rcases hroutes p hp with hp | hp
    · exact h₃ p hp hpt
    · rw [hpt, hnever] at hp
      cases hp

/-- One party changes, with its mailbox. -/
lemma party {m : Mailbox} {r : Role} (hl : l.Settled) (ht : r ≠ .none → t.val < l.nextTicket)
    (hr : ∀ sub, r = .consumer sub → sub.state = .subscribed
      ∨ sub.state = .closed ∧ m.events = [] ∧ l.mayDeliver t = false)
    (hm : m.waiting = true ∨ m.reply ≠ none → ∃ x, r = .caller x) :
    ((l.setMailbox t m).setRole t r).Settled where
  fresh := by
    intro u hu
    rw [setRole_role] at hu
    split at hu
    case isTrue htu => exact htu ▸ ht hu
    case isFalse => exact hl.fresh u hu
  consumer := by
    intro u sub hu
    rw [setRole_mailbox, setMailbox_mailbox]
    by_cases htu : u = t
    · subst htu
      rw [setRole_role, if_pos rfl] at hu
      rw [if_pos rfl]
      exact hr sub hu
    · rw [setRole_role, if_neg htu] at hu
      rw [if_neg htu]
      exact hl.consumer u sub hu
  caller := by
    intro u
    rw [setRole_mailbox, setMailbox_mailbox, setRole_role]
    by_cases htu : u = t
    · rw [if_pos htu, if_pos htu]
      exact hm
    · rw [if_neg htu, if_neg htu]
      exact hl.caller u

lemma setRole {r : Role} (hl : l.Settled) (ht : r ≠ .none → t.val < l.nextTicket)
    (hr : ∀ sub, r = .consumer sub → sub.state = .subscribed
      ∨ sub.state = .closed ∧ (l.mailbox t).events = [] ∧ l.mayDeliver t = false)
    (hm : (∃ x, l.role t = .caller x) → ∃ x, r = .caller x) : (l.setRole t r).Settled := by
  have hparty := hl.party ht hr fun h => hm (hl.caller t h)
  rwa [setMailbox_self] at hparty

lemma setMailbox {m : Mailbox} (hl : l.Settled)
    (hevents : l.mayDeliver t = false → (l.mailbox t).events = [] → m.events = [])
    (hm : m.waiting = true ∨ m.reply ≠ none → ∃ x, l.role t = .caller x) :
    (l.setMailbox t m).Settled := by
  have hparty := hl.party (r := l.role t) (hl.fresh t) (fun sub hsub =>
    (hl.consumer t sub hsub).imp_right fun ⟨hclosed, hnil, hnever⟩ =>
      ⟨hclosed, hevents hnever hnil, hnever⟩) hm
  rwa [Ledger.setRole, show (l.setMailbox t m).role = l.role from rfl, Function.update_eq_self]
    at hparty

/-- A route to a subscription comes in the place of its pending request. -/
lemma resolving {id : RequestId} {w : Waiter} {r : Reply} (hl : l.Settled)
    (hfind : l.pending.find? id = some w) : (l.resolving id w r).Settled := by
  refine hl.ways rfl rfl rfl (fun _ => .inl) (fun p hp => .inl (List.mem_filter.mp hp).1) ?_
  intro p hp
  cases hcall : Channel.opened? w r with
  | none =>
    rw [resolving_routes_of_none hcall] at hp
    exact .inl hp
  | some c =>
    rw [resolving_routes_of_some hcall] at hp
    rcases Table.mem_insert.mp hp with ⟨hp, -⟩ | ⟨-, hticket⟩
    · exact .inl hp
    · have hrouted : w.routed = true := by
        by_contra hrouted
        simp [Channel.opened?, hrouted] at hcall
      right
      by_contra hnever
      have hnot := (mayDeliver_eq_false.mp (eq_false_of_ne_true hnever)).2.1 (id, w)
        (Table.mem_of_find? hfind) hticket.symm
      cases hrouted.symm.trans hnot

/-- A request is queued by its caller, and a caller is no consumer. -/
lemma queue {x y : Exchange} (hl : l.Settled) (hrole : l.role t = .caller x) (ht : x.ticket = t) :
    ({ l with commands := l.commands ++ [x.command] }.setRole t (.caller y)).Settled := by
  have hqueued : Settled { l with commands := l.commands ++ [x.command] } := by
    refine hl.ways rfl rfl rfl (fun c hc => ?_) (fun _ => .inl) fun _ => .inl
    refine (List.mem_append.mp hc).imp_right fun hc u sub hu => ?_
    have htu : t ≠ u := by
      rintro rfl
      cases hrole.symm.trans hu
    rw [List.mem_singleton.mp hc, Exchange.command]
    simp [Command.routes, ht, htu]
  exact hqueued.setRole (fun _ => hl.fresh t (by simp [hrole])) (by rintro sub ⟨⟩) fun _ => ⟨_, rfl⟩

/-- A pending request leads to whom its command has led. -/
lemma number {r : Request} {w : Option Waiter} {rest : List Command} (hl : l.Settled)
    (hcommands : l.commands = .send r w :: rest) : (l.numbering r w rest).Settled := by
  have hway : ∀ t, l.mayDeliver t = false → ∀ w', w = some w' → w'.ticket = t →
      w'.routed = false := by
    rintro t hnever w' rfl ht
    have hroute := (mayDeliver_eq_false.mp hnever).1 (.send r (some w'))
      (hcommands ▸ List.mem_cons_self)
    simpa [Command.routes, ht] using hroute
  refine hl.ways rfl rfl rfl (fun c hc => .inl (hcommands ▸ List.mem_cons_of_mem _ hc)) ?_
    fun _ => .inl
  intro p hp
  cases w with
  | none => exact .inl hp
  | some w =>
    rcases Table.mem_insert.mp hp with ⟨hp, -⟩ | ⟨-, rfl⟩
    · exact .inl hp
    · exact .inr fun t hnever => hway t hnever p.2 rfl

end Settled

lemma Step.settled (hl : l.Settled) (hs : Step τ l h l') : l'.Settled := by
  have hlater : Settled { l with nextTicket := l.nextTicket + 1 } :=
    hl.frame (Nat.le_succ _) rfl rfl fun _ _ _ => id
  -- A party that is no caller has no reply at hand.
  have hidle : ∀ {t}, (∀ x, l.role t ≠ .caller x) →
      ¬ ((l.mailbox t).waiting = true ∨ (l.mailbox t).reply ≠ none) := by
    intro t ht hm
    obtain ⟨x, hx⟩ := hl.caller t hm
    exact ht x hx
  cases hs with
  | enter x hx hstage =>
    exact hlater.party (fun _ => hx ▸ Nat.lt_succ_self _) (by rintro sub ⟨⟩) fun _ => ⟨x, rfl⟩
  | ticket =>
    refine hlater.setRole (absurd rfl) (by rintro sub ⟨⟩) ?_
    rintro ⟨x, hx⟩
    have hfresh := hl.fresh ⟨l.nextTicket⟩ (by rw [show l.role _ = _ from hx]; exact nofun)
    exact absurd hfresh (Nat.lt_irrefl _)
  | queue now hrun hrole ht hstage => exact hl.queue hrole ht
  | @order c hrun hc =>
    refine hl.ways rfl rfl rfl (fun c' hc' => ?_) (fun _ => .inl) fun _ => .inl
    refine (List.mem_append.mp hc').imp_right fun hc' u sub hu => ?_
    rw [List.mem_singleton.mp hc']
    cases c with
    | send r w => cases w with
      | none => rfl
      | some w => cases hc
    | close => rfl
  | fail e hrole hreply =>
    exact hl.party (absurd rfl) (by rintro sub ⟨⟩) (by simp [Mailbox.forsaken])
  | finish hrole =>
    exact hl.party (absurd rfl) (by rintro sub ⟨⟩) (by simp [Mailbox.answered])
  | abandon hrole =>
    exact hl.party (absurd rfl) (by rintro sub ⟨⟩) (by simp [Mailbox.forsaken])
  | «open» topic hrole =>
    refine hl.party (fun _ => hl.fresh _ (by simp [hrole])) ?_ (by simp [Mailbox.answered])
    rintro sub ⟨⟩
    exact .inl rfl
  | tell => exact hl
  | @release t s n hrole =>
    have hcancelled : Settled
        { l with cancels := if l.stopped then l.cancels else l.cancels ++ [s.call] } :=
      hl.frame le_rfl rfl rfl fun _ _ _ => id
    exact hcancelled.party (absurd rfl) (by rintro sub ⟨⟩)
      fun hm => absurd hm (hidle (by simp [hrole]))
  | drop hrole =>
    exact hl.setRole (absurd rfl) (by rintro sub ⟨⟩) (by simp [hrole])
  | read hrole hevents =>
    refine hl.setMailbox (fun _ hnil => ?_) fun hm => absurd hm (hidle (by simp [hrole]))
    cases hevents.symm.trans hnil
  | close hrole hevents hnever =>
    refine hl.setRole (fun _ => hl.fresh _ (by simp [hrole])) ?_ (by simp [hrole])
    rintro sub ⟨⟩
    exact .inr ⟨rfl, hevents, hnever⟩
  | sweep hrun =>
    exact hl.ways rfl rfl rfl (fun _ => .inl) (fun p hp => .inl (List.mem_filter.mp hp).1)
      fun _ => .inl
  | number hrun hhand hcommands => exact hl.number hcommands
  | cancel hrun hhand hcancels =>
    exact hl.ways rfl rfl rfl (fun _ => .inl) (fun _ => .inl)
      fun p hp => .inl (List.mem_filter.mp hp).1
  | write hrun hhand => exact hl.frame le_rfl rfl rfl fun _ _ _ => id
  | stop hrun => exact hl.frame le_rfl rfl rfl fun _ _ _ _ => rfl
  | @answer id w r hrun hid hfind hwaiting =>
    obtain ⟨x, hx⟩ := hl.caller w.ticket (.inl hwaiting)
    exact (hl.resolving hfind).setMailbox (fun _ hnil => hnil) fun _ => ⟨x, hx⟩
  | late hrun hid hfind hwaiting =>
    exact (hl.resolving hfind).frame le_rfl rfl rfl fun _ _ _ => id
  | forgotten hrun => exact hl.frame le_rfl rfl rfl fun _ _ _ => id
  | pass hrun => exact hl
  | deliver hrun hfind hlistening =>
    refine hl.setMailbox (fun hnever => ?_) fun hm => hl.caller _ hm
    exact absurd rfl ((mayDeliver_eq_false.mp hnever).2.2 _ (Table.mem_of_find? hfind))
  | unroute hrun hfind hlistening =>
    exact hl.ways rfl rfl rfl (fun _ => .inl) (fun _ => .inl)
      fun p hp => .inl (List.mem_filter.mp hp).1
  | miss hrun => exact hl
  | other hrun => exact hl

lemma settled_start : start.Settled where
  fresh := fun t ht => absurd rfl ht
  consumer := by rintro t sub ⟨⟩
  caller := by simp [start, Mailbox.left]

theorem settled_of_steps (hs : Ledger.start.Steps τ h l) : l.Settled :=
  hs.invariant (P := fun _ l => l.Settled) settled_start fun _ hl hs => hs.settled hl

/-! ### After the stop -/

/-- What is left as it is once the dispatcher has stopped. -/
structure Rests (l : Ledger) (h : List Note) (l' : Ledger) : Prop where
  stopped : l'.stopped = true
  written : l'.written = l.written
  ticket : l.nextTicket ≤ l'.nextTicket
  /-- No reply comes any more. -/
  reply : ∀ t r, (l'.mailbox t).reply = some r → (l.mailbox t).reply = some r
  /-- Whoever has left does not come back. -/
  gone : ∀ t, t.val < l.nextTicket → l.role t = .none → l'.role t = .none
  /-- Only the consumer itself takes events out of its queue. -/
  events : ∀ t, t.val < l.nextTicket → l'.role t ≠ .none → (∀ u, .yielded t u ∉ h) →
    (l'.mailbox t).events = (l.mailbox t).events

namespace Rests

lemma refl (hstop : l.stopped = true) : l.Rests [] l :=
  ⟨hstop, rfl, le_rfl, fun _ _ => id, fun _ _ => id, fun _ _ _ _ => rfl⟩

lemma trans {l'' : Ledger} (hl : l.Rests h l') (hl' : l'.Rests h' l'') :
    l.Rests (h ++ h') l'' where
  stopped := hl'.stopped
  written := hl'.written.trans hl.written
  ticket := hl.ticket.trans hl'.ticket
  reply := fun t r hr => hl.reply t r (hl'.reply t r hr)
  gone := fun t ht hnone => hl'.gone t (ht.trans_le hl.ticket) (hl.gone t ht hnone)
  events := by
    intro t ht hrole hnot
    have hrole' : l'.role t ≠ .none := fun hnone =>
      hrole (hl'.gone t (ht.trans_le hl.ticket) hnone)
    rw [hl'.events t (ht.trans_le hl.ticket) hrole fun u hu => hnot u (List.mem_append_right _ hu),
      hl.events t ht hrole' fun u hu => hnot u (List.mem_append_left _ hu)]

/-- A party with another role, and another mailbox for it. -/
lemma of_party {m : Mailbox} {r : Role} (hstop : l.stopped = true) (hrole : l.role t ≠ .none)
    (hreply : ∀ r, m.reply = some r → (l.mailbox t).reply = some r)
    (hevents : r ≠ .none → (∀ u, .yielded t u ∉ h) → m.events = (l.mailbox t).events) :
    l.Rests h ((l.setMailbox t m).setRole t r) where
  stopped := hstop
  written := rfl
  ticket := le_rfl
  reply := fun _ _ hr => reply_of_setMailbox hreply hr
  gone := by
    intro u _ hnone
    rw [setRole_role, if_neg (by rintro rfl; exact hrole hnone)]
    exact hnone
  events := by
    intro u _ hrole' hnot
    rw [setRole_mailbox, setMailbox_mailbox]
    split
    case isTrue hu =>
      subst hu
      rw [setRole_role, if_pos rfl] at hrole'
      exact hevents hrole' hnot
    case isFalse => rfl

/-- Somebody gets the next ticket. -/
lemma of_next {m : Mailbox} {r : Role} (hstop : l.stopped = true) (ht : t.val = l.nextTicket)
    (hreply : ∀ r, m.reply = some r → (l.mailbox t).reply = some r) :
    l.Rests h (({ l with nextTicket := l.nextTicket + 1 }.setMailbox t m).setRole t r) where
  stopped := hstop
  written := rfl
  ticket := Nat.le_succ _
  reply := fun _ _ hr => reply_of_setMailbox hreply hr
  gone := by
    intro u hu hnone
    rw [setRole_role, if_neg (by rintro rfl; omega)]
    exact hnone
  events := by
    intro u hu _ _
    rw [setRole_mailbox, setMailbox_mailbox, if_neg (by rintro rfl; omega)]

end Rests

lemma Step.rests (hstop : l.stopped = true) (hs : Step τ l h l') : l.Rests h l' := by
  have hpresent : ∀ {t r}, l.role t = r → r ≠ .none → l.role t ≠ .none := by
    rintro t r rfl hr
    exact hr
  cases hs with
  | enter x hx hstage => exact .of_next hstop hx (by rintro r ⟨⟩)
  | ticket =>
    have hnext := Rests.of_next (h := []) (t := ⟨l.nextTicket⟩) (m := l.mailbox ⟨l.nextTicket⟩)
      (r := .none) hstop rfl fun _ => id
    rwa [show (setMailbox _ (l.mailbox ⟨l.nextTicket⟩) { l with nextTicket := l.nextTicket + 1 })
      = _ from setMailbox_self ..] at hnext
  | fail e hrole hreply =>
    exact .of_party hstop (hpresent hrole nofun) (by rintro r ⟨⟩) fun _ _ => rfl
  | finish hrole =>
    exact .of_party hstop (hpresent hrole nofun) (by rintro r ⟨⟩) fun _ _ => rfl
  | abandon hrole =>
    exact .of_party hstop (hpresent hrole nofun) (by rintro r ⟨⟩) fun _ _ => rfl
  | «open» topic hrole =>
    exact .of_party hstop (hpresent hrole nofun) (by rintro r ⟨⟩) fun _ _ => rfl
  | tell => exact ⟨hstop, rfl, le_rfl, fun _ _ => id, fun _ _ => id, fun _ _ _ _ => rfl⟩
  | @release t s n hrole =>
    rw [if_pos hstop]
    exact .of_party hstop (hpresent hrole nofun) (fun _ => id) fun hr => absurd rfl hr
  | @drop t s n hrole =>
    have hparty := Rests.of_party (h := [n]) (t := t) (m := l.mailbox t) (r := .none) hstop
      (hpresent hrole nofun) (fun _ => id) fun _ _ => rfl
    rwa [setMailbox_self] at hparty
  | @read t s u rest hrole hevents =>
    have hreply : ∀ r, ({ l.mailbox t with events := rest } : Mailbox).reply = some r →
        (l.mailbox t).reply = some r := fun _ => id
    refine ⟨hstop, rfl, le_rfl, fun _ _ hr => reply_of_setMailbox hreply hr, fun _ _ => id,
      fun v _ _ hnot => ?_⟩
    rw [setMailbox_mailbox, if_neg]
    rintro rfl
    exact hnot u (List.mem_singleton_self _)
  | @close t s hrole hevents hnever =>
    have hparty := Rests.of_party (h := []) (t := t) (m := l.mailbox t)
      (r := .consumer { s with state := .closed }) hstop (hpresent hrole nofun) (fun _ => id)
      fun _ _ => rfl
    rwa [setMailbox_self] at hparty
  | queue _ hrun | order hrun | sweep hrun | number hrun | cancel hrun | write hrun | stop hrun
  | answer hrun | late hrun | forgotten hrun | pass hrun | deliver hrun | unroute hrun
  | miss hrun | other hrun => cases hstop.symm.trans hrun

lemma Steps.rests (hstop : l.stopped = true) (hs : l.Steps τ h l') : l.Rests h l' := by
  induction hs with
  | refl => exact .refl hstop
  | tail _ last ih => exact ih.trans (last.rests ih.stopped)

end Ledger

/-! ### Consumers -/

/-- What is found, made into something else. -/
def Found.map {α β : Type} (f : α → β) : Found α → Found β
  | .item a => .item (f a)
  | .pending => .pending
  | .over => .over

variable {sub : Subscription} {ch : Channel}

namespace Party

/-- What a consumer finds. Events are shown as they are. -/
def found (p : Party) (ch : Channel) : Found Item :=
  match p with
  | .calling _ => .pending
  | .holding sub => (sub.poll ch).1.map .update
  | .streaming st => (st.poll ch).1

/-- What a consumer has still to get of the events in its queue. -/
def left (p : Party) (ch : Channel) : List Item :=
  match p with
  | .calling _ => []
  | .holding sub => (ch.mailbox sub.ticket).events.map .update
  | .streaming st =>
    st.waiting.toList ++ st.viewer.outputs (ch.mailbox st.subscription.ticket).events

/-- A consumer who has found the end. -/
def isClosed (p : Party) : Bool :=
  match p.role with
  | .consumer sub => sub.state = .closed
  | _ => false

end Party

namespace Subscription

/-- No more events come for a subscription. It has its call, or has found its end. -/
structure Ends (sub : Subscription) (ch : Channel) : Prop where
  never : ch.mayDeliver sub.ticket = false
  state : sub.state = .subscribed
    ∨ sub.state = .closed ∧ (ch.mailbox sub.ticket).events = []

lemma Ends.await {α : Type} (he : sub.Ends ch) :
    sub.await (α := α) ch = (.over, { sub with state := .closed }) :=
  if_neg (by simp [he.never])

/-- A subscription yields what is left in its queue, and then finds the end. -/
lemma Ends.poll (he : sub.Ends ch) :
    (sub.poll ch).1 = .next (ch.mailbox sub.ticket).events.head? false
      ∧ ((sub.poll ch).2.2.mailbox (sub.poll ch).2.1.ticket).events
        = (ch.mailbox sub.ticket).events.tail
      ∧ ((ch.mailbox sub.ticket).events = [] → (sub.poll ch).2.1.state = .closed) := by
  unfold Subscription.poll
  rcases he.state with hstate | ⟨hstate, hnil⟩
  · rw [if_neg (not_not_intro hstate)]
    cases hevents : (ch.mailbox sub.ticket).events with
    | cons u rest =>
      refine ⟨rfl, sub.keep_events rest ch ?_, by rintro ⟨⟩⟩
      rw [hevents]
      exact List.suffix_cons u rest
    | nil =>
      dsimp only
      rw [he.await]
      exact ⟨rfl, hevents, fun _ => rfl⟩
  · rw [if_pos (by rw [hstate]; exact nofun), hnil]
    exact ⟨rfl, rfl, fun _ => hstate⟩

end Subscription

/-- A stream emits what is left in its queue, and then finds the end. -/
lemma Stream.poll_of_ends {st : Stream} (he : st.subscription.Ends ch) :
    (st.poll ch).1 = .next (Party.left (.streaming st) ch).head? false
      ∧ Party.left (.streaming (st.poll ch).2.1) (st.poll ch).2.2
        = (Party.left (.streaming st) ch).tail
      ∧ (Party.left (.streaming st) ch = [] → (st.poll ch).2.1.subscription.state = .closed) := by
  have hpolls := st.polls ch
  generalize st.poll ch = result at hpolls ⊢
  simp only [Party.left]
  cases hpolls with
  | first hwaiting =>
    rw [hwaiting]
    exact ⟨rfl, rfl, by rintro ⟨⟩⟩
  | ended hwaiting hstate =>
    obtain ⟨hclosed, hnil⟩ := he.state.resolve_left hstate
    rw [hwaiting, hnil]
    exact ⟨rfl, rfl, fun _ => hclosed⟩
  | @item item taken rest hwaiting hstate hevents houtputs =>
    rw [hwaiting, hevents, Viewer.outputs_append, houtputs]
    refine ⟨rfl, ?_, by rintro ⟨⟩⟩
    rw [st.subscription.keep_events rest ch (by rw [hevents]; exact List.suffix_append ..)]
    rfl
  | @dry events hwaiting hstate hevents houtputs =>
    rw [hwaiting, hevents, houtputs, he.await]
    refine ⟨rfl, ?_, fun _ => rfl⟩
    rw [st.subscription.keep_events [] ch List.nil_suffix]
    rfl

/-- A consumer gets what is left for it, one item after another, and then finds the end. -/
lemma Party.found_of_ends {p : Party} (hp : p.isCalling = false) (hrole : p.role = .consumer sub)
    (he : sub.Ends ch) :
    p.found ch = .next (p.left ch).head? false
      ∧ (p.read ch).1.left (p.read ch).2 = (p.left ch).tail
      ∧ (p.left ch = [] → (p.read ch).1.isClosed = true) := by
  cases p with
  | calling op => cases hp
  | holding sub' =>
    obtain rfl : sub' = sub := by injection hrole
    obtain ⟨hfound, hleft, hclosed⟩ := he.poll
    refine ⟨?_, ?_, fun hnil => ?_⟩
    · rw [Party.found, hfound, Party.left]
      cases (ch.mailbox sub'.ticket).events <;> rfl
    · rw [Party.left, ← List.map_tail, ← hleft]
      rfl
    · rw [Party.left, List.map_eq_nil_iff] at hnil
      simp only [Party.isClosed, Party.role, Party.read, hclosed hnil, decide_true]
  | streaming st =>
    obtain rfl : st.subscription = sub := by injection hrole
    obtain ⟨hfound, hleft, hclosed⟩ := Stream.poll_of_ends he
    refine ⟨hfound, hleft, fun hnil => ?_⟩
    simp only [Party.isClosed, Party.role, Party.read, hclosed hnil, decide_true]

/-- What is left for a consumer depends on its queue alone. -/
lemma Party.left_congr {p : Party} {ch' : Channel} (hrole : p.role = .consumer sub)
    (hevents : (ch'.mailbox sub.ticket).events = (ch.mailbox sub.ticket).events) :
    p.left ch' = p.left ch := by
  cases p with
  | calling op => rfl
  | holding sub' =>
    obtain rfl : sub' = sub := by injection hrole
    rw [left, left, hevents]
  | streaming st =>
    obtain rfl : st.subscription = sub := by injection hrole
    rw [left, left, hevents]

/-! ### Callers -/

lemma Exchange.poll_of_stopped (span : Time.Span) (now : Nat) {x : Exchange}
    (hstop : ch.isStopped = true) (hnever : ch.mayAnswer x.ticket = false)
    (hreply : (ch.mailbox x.ticket).reply = none) :
    x.poll span now ch = (.ready (.error .closed), (x.poll span now ch).2) := by
  cases hstage : x.stage with
  | queueing => simp [poll, hstage, Channel.enqueue, hstop]
  | awaiting deadline => simp [poll, hstage, await, hreply, hnever]

/-- A caller who waits for a reply finds the connection closed. -/
lemma Operation.poll_of_stopped (s : Setting) (now : Nat) {op : Operation} {x : Exchange}
    (hx : op.exchange? = some x) (hstop : ch.isStopped = true)
    (hnever : ch.mayAnswer x.ticket = false) (hreply : (ch.mailbox x.ticket).reply = none) :
    (op.poll s now ch).1 = .ready (.error .closed) := by
  have hpoll := x.poll_of_stopped s.config.replyTimeout now hstop hnever hreply
  cases op with
  | send y | subscribe topic y | stream plan topic y =>
    obtain rfl := Option.some.inj hx
    simp only [poll]
    rw [hpoll]
  | _ => cases hx

/-! ### Acts -/

namespace System

variable {s : System}

/-- Whether an act is a look of the consumer of a ticket. -/
def Act.reads (t : Ticket) : Act → Bool
  | .read u => u = t
  | _ => false

/-- A system whose dispatcher has stopped. -/
structure Halted (s : System) : Prop where
  stopped : s.channel.isStopped = true
  fits : s.Fits
  settled : s.ledger.Settled
  empty : s.ledger.Empty

lemma Halted.rests (hs : s.Halted) (a : Act) : s.ledger.Rests (s.notes a) (s.act a).ledger :=
  (takes_act a hs.fits).steps.rests hs.stopped

lemma Halted.mayAnswer (hs : s.Halted) (t : Ticket) : s.channel.mayAnswer t = false := by
  have hcommands : s.channel.commands = [] := hs.empty.commands
  have hpending : s.channel.pending = [] := hs.empty.pending
  simp [Channel.mayAnswer, hcommands, hpending]

/-- Who waits for a reply is there. -/
lemma party_of_caller {x : Exchange} (hrole : s.role t = .caller x) :
    ∃ op, s.parties.find? t = some (.calling op) ∧ op.exchange? = some x := by
  rw [role] at hrole
  cases hparty : s.parties.find? t with
  | none =>
    rw [hparty] at hrole
    cases hrole
  | some p =>
    rw [hparty] at hrole
    cases p with
    | calling op => cases op <;> cases hrole <;> exact ⟨_, rfl, rfl⟩
    | holding | streaming => cases hrole

lemma not_yielded_log {bs : List Act} (hreads : bs.countP (Act.reads t) = 0) (s : System)
    (u : Update) : .yielded t u ∉ s.log bs := by
  induction bs generalizing s with
  | nil => exact List.not_mem_nil
  | cons b bs ih =>
    rw [List.countP_eq_zero, List.forall_mem_cons, ← List.countP_eq_zero] at hreads
    rw [log, List.mem_append, not_or]
    refine ⟨not_yielded ?_ u, ih hreads.2 _⟩
    rintro rfl
    exact hreads.1 (by simp [Act.reads])

/-- A consumer has come to the system, and has taken some of what has been left for it. -/
structure Drains (t : Ticket) (items : List Item) (reads : Nat) (s : System) (p : Party) :
    Prop where
  party : s.parties.find? t = some p
  present : p.isCalling = false
  left : p.left s.channel = items.drop reads
  closed : items.length < reads → p.isClosed = true

lemma Halted.ends (hs : s.Halted) {p : Party} (hparty : s.parties.find? t = some p)
    (hp : p.isCalling = false) :
    ∃ sub, p.role = .consumer sub ∧ sub.ticket = t ∧ sub.Ends s.channel
      ∧ t.val < s.channel.nextTicket := by
  have hrole : s.role t = p.role := role_of_party hparty
  have hsub : ∃ sub, p.role = .consumer sub := by
    cases p with
    | calling op => cases hp
    | holding sub => exact ⟨sub, rfl⟩
    | streaming st => exact ⟨st.subscription, rfl⟩
  obtain ⟨sub, hsub⟩ := hsub
  obtain rfl := Party.ticket_of_fits (hs.fits t p hparty) hsub
  rw [hsub] at hrole
  refine ⟨sub, hsub, rfl, ⟨?_, ?_⟩, hs.settled.fresh _ ?_⟩
  · exact hs.empty.mayDeliver sub.ticket
  · exact (hs.settled.consumer _ sub hrole).imp_right fun ⟨hclosed, hnil, _⟩ => ⟨hclosed, hnil⟩
  · rw [show s.ledger.role _ = _ from hrole]
    exact nofun

lemma Drains.read {items : List Item} {n : Nat} {p : Party} (hd : Drains t items n s p)
    (hs : s.Halted) : Drains t items (n + 1) (s.act (.read t)) (p.read s.channel).1 := by
  obtain ⟨sub, hrole, -, hends, -⟩ := hs.ends hd.party hd.present
  obtain ⟨-, hleft, hclosed⟩ := Party.found_of_ends hd.present hrole hends
  obtain ⟨hparty', hchannel⟩ := act_read_of_party hd.party hd.present
  refine ⟨hparty', ?_, ?_, fun hlt => hclosed ?_⟩
  · have hpresent := hd.present
    cases p with
    | calling op => cases hpresent
    | holding | streaming => rfl
  · rw [hchannel, hleft, hd.left, List.tail_drop]
  · rw [hd.left]
    exact List.drop_eq_nil_of_le (Nat.lt_succ_iff.mp hlt)

lemma Drains.act {items : List Item} {n : Nat} {p p' : Party} (hd : Drains t items n s p)
    (hs : s.Halted) {a : Act} (ha : a ≠ .read t) (hparty : (s.act a).parties.find? t = some p') :
    Drains t items n (s.act a) p' := by
  obtain ⟨sub, hrole, rfl, -, ht⟩ := hs.ends hd.party hd.present
  have hidle : ∀ op, s.parties.find? sub.ticket ≠ some (.calling op) := by
    intro op hop
    obtain rfl := Option.some.inj (hd.party.symm.trans hop)
    cases hd.present
  obtain rfl := Option.some.inj (hd.party.symm.trans (party_of_act ha ht hidle hparty))
  refine ⟨hparty, hd.present, ?_, hd.closed⟩
  rw [← hd.left]
  refine Party.left_congr hrole ((hs.rests a).events _ ht ?_ (not_yielded ha))
  rw [show (s.act a).ledger.role _ = _ from role_of_party hparty, hrole]
  exact nofun

end System

/-! ### Runs -/

section

variable {setting : Setting} {textRoom : Nat} {s : System}

lemma Run.halted (hrun : Run setting textRoom h s) (hstop : s.channel.isStopped = true) :
    s.Halted := by
  obtain ⟨hsteps, hfits, -⟩ := hrun.steps
  exact ⟨hstop, hfits, Ledger.settled_of_steps hsteps, Ledger.empty_of_steps hsteps hstop⟩

lemma Run.halted_play (hrun : Run setting textRoom h s) (hstop : s.channel.isStopped = true)
    (bs : List System.Act) : (s.play bs).Halted :=
  (hrun.play bs).halted (System.isStopped_play hstop bs)

lemma Run.rests (hrun : Run setting textRoom h s) (hstop : s.channel.isStopped = true)
    (bs : List System.Act) : s.ledger.Rests (s.log bs) (s.play bs).ledger := by
  induction bs generalizing h s with
  | nil => exact .refl hstop
  | cons b bs ih =>
    exact ((hrun.halted hstop).rests b).trans (ih (hrun.act b) (System.isStopped_act hstop b))

/-- Whoever looks gets what is left, one item after another. -/
lemma Run.drains (hrun : Run setting textRoom h s) (hstop : s.channel.isStopped = true)
    {p p' : Party} (hparty : s.parties.find? t = some p) (hp : p.isCalling = false)
    (bs : List System.Act) (hparty' : (s.play bs).parties.find? t = some p') :
    System.Drains t (p.left s.channel) (bs.countP (System.Act.reads t)) (s.play bs) p' := by
  induction bs using List.reverseRecOn generalizing p' with
  | nil =>
    obtain rfl := Option.some.inj (hparty.symm.trans hparty')
    exact ⟨hparty, hp, rfl, fun hlt => absurd hlt (Nat.not_lt_zero _)⟩
  | append_singleton bs b ih =>
    have hs := hrun.halted_play hstop bs
    rw [System.play_append] at hparty' ⊢
    change ((s.play bs).act b).parties.find? t = some p' at hparty'
    change System.Drains _ _ _ ((s.play bs).act b) p'
    rw [List.countP_append, List.countP_singleton]
    by_cases hb : b = .read t
    · subst hb
      -- There is nobody who comes by looking.
      cases hbefore : (s.play bs).parties.find? t with
      | none =>
        have hidle : ∀ q, (s.play bs).parties.find? t = some q → q.isCalling = true := by
          simp [hbefore]
        rw [(System.act_read_of_idle hidle).1, hbefore] at hparty'
        cases hparty'
      | some q =>
        have hread := (ih hbefore).read hs
        obtain rfl := Option.some.inj (hread.party.symm.trans hparty')
        rwa [if_pos (by simp [System.Act.reads])]
    · have hnone : System.Act.reads t b = false := by
        cases b <;> simp_all [System.Act.reads]
      obtain ⟨-, -, -, -, hold⟩ := (hrun.halted hstop).ends hparty hp
      have ht : t.val < (s.play bs).channel.nextTicket :=
        hold.trans_le (hrun.rests hstop bs).ticket
      rw [hnone]
      cases hbefore : (s.play bs).parties.find? t with
      | none =>
        have hstay := System.party_of_act hb ht (by simp [hbefore]) hparty'
        cases hbefore.symm.trans hstay
      | some q => exact (ih hbefore).act hs hb hparty'

/-- What comes of those who use a connection from the moment on when the dispatcher has stopped. -/
structure System.Ended (s : System) (bs : List System.Act) (s' : System) : Prop where
  /-- Whoever waits for a reply, or comes with a request later, finds the connection closed, unless
  its reply has been there when the dispatcher stopped. -/
  caller : ∀ t op x, s'.parties.find? t = some (.calling op) → op.exchange? = some x →
    (op.poll s'.setting s'.now s'.channel).1 = .ready (.error .closed)
      ∨ ∃ op' r, s.parties.find? t = some (.calling op') ∧ op'.exchange?.isSome
        ∧ (s.channel.mailbox t).reply = some r ∧ (s'.channel.mailbox t).reply = some r
  /-- Looking `k` times brings the first `k` of the items that are left. Then comes the end, and the
  subscription is closed for good. -/
  consumer : ∀ t p p', s.parties.find? t = some p → p.isCalling = false →
    s'.parties.find? t = some p' →
    p'.found s'.channel = .next (p.left s.channel)[bs.countP (System.Act.reads t)]? false
      ∧ ((p.left s.channel).length < bs.countP (System.Act.reads t) → p'.isClosed = true)
  /-- Nothing is lost for those who do not look, as long as the stream is being opened. -/
  queue : ∀ t sub, t.val < s.channel.nextTicket → s'.role t = .consumer sub →
    bs.countP (System.Act.reads t) = 0 →
    (s'.channel.mailbox t).events = (s.channel.mailbox t).events
  /-- Nothing is written, or waits to be. -/
  written : s'.channel.written = s.channel.written ∧ s'.channel.cancels = []
    ∧ s'.channel.isStopped = true

lemma Run.ended (hrun : Run setting textRoom h s)
    (hstop : s.channel.isStopped = true) (bs : List System.Act) : s.Ended bs (s.play bs) := by
  have hs := hrun.halted hstop
  have hs' := hrun.halted_play hstop bs
  have hrests := hrun.rests hstop bs
  exact {
    caller := by
      intro t op x hparty hx
      have hticket : x.ticket = t := by
        have hfits := hs'.fits t _ hparty
        cases op <;> cases hx <;> exact hfits.1
      subst hticket
      cases hreply : ((s.play bs).channel.mailbox x.ticket).reply with
      | none =>
        exact .inl (op.poll_of_stopped _ _ hx hs'.stopped (hs'.mayAnswer x.ticket) hreply)
      | some r =>
        have hbefore := hrests.reply x.ticket r hreply
        obtain ⟨x', hx'⟩ := hs.settled.caller x.ticket (.inr (by
          rw [show (s.ledger.mailbox x.ticket).reply = some r from hbefore]
          exact Option.some_ne_none r))
        obtain ⟨op', hop', hexchange⟩ := System.party_of_caller hx'
        exact .inr ⟨op', r, hop', by rw [hexchange, Option.isSome_some], hbefore, rfl⟩
    consumer := by
      intro t p p' hparty hp hparty'
      have hdrains := hrun.drains hstop hparty hp bs hparty'
      obtain ⟨sub, hrole, -, hends, -⟩ := hs'.ends hdrains.party hdrains.present
      refine ⟨?_, hdrains.closed⟩
      rw [(Party.found_of_ends hdrains.present hrole hends).1, hdrains.left, List.head?_drop]
    queue := by
      intro t sub ht hrole hreads
      refine hrests.events t ht ?_ (System.not_yielded_log hreads s)
      rw [show (s.play bs).ledger.role t = _ from hrole]
      exact nofun
    written := ⟨hrests.written, hs'.empty.cancels, hs'.stopped⟩ }

/-- A dispatcher that stops while somebody holds the connection has taken all texts. -/
lemma Channel.inbound_of_stop (htask : ch.task? = some .stop) (hheld : ch.held = true) :
    ch.inbound = [] := by
  cases due_of_task htask with
  | unused _ _ hdropped => cases hheld.symm.trans hdropped
  | drained _ _ _ _ hinbound => exact hinbound

/-- In every run, once the dispatcher has stopped for whatever reason, all who wait for a reply and
all who come later find the connection closed, all consumers get what is in their queues and then
the end, and nothing is written any more. When the dispatcher stops while the connection is held,
because the server has hung up, it has handled all that the server has sent. -/
theorem Run.stop_reaches_all (as : List System.Act)
    (hplay : (System.start setting textRoom).play as = s) :
    (s.channel.isStopped = true → ∀ bs, s.Ended bs (s.play bs))
      ∧ (s.channel.task? = some .stop → s.channel.held = true →
        handledFrames ((System.start setting textRoom).log as)
          = ((System.start setting textRoom).arrivals as).map Frame.decode) := by
  subst hplay
  refine ⟨fun hstop bs => (Run.start.play as).ended hstop bs, fun htask hheld => ?_⟩
  have htexts := (System.start setting textRoom).texts_play Channel.silent_none as
    (Channel.isStopped_of_task htask)
  rw [Channel.inbound_of_stop htask hheld, List.map_nil, List.append_nil] at htexts
  exact htexts

end

/-! ### A server that hangs up -/

namespace Channel.Task

def isStop : Task → Bool
  | .stop => true
  | _ => false

lemma eq_stop {task? : Option Task} (h : task?.any isStop = true) : task? = some .stop := by
  cases task? with
  | none => cases h
  | some task => cases task <;> first | rfl | cases h

end Channel.Task

namespace System

/-- The first request opens a call, which gets an event. Then the server hangs up, without an answer
to the second request. -/
def hangingUp : List Act :=
  [.subscribe (.time "simulator" "realtime"), .subscribe (.links "simulator"), .look ⟨0⟩,
    .look ⟨1⟩, .dispatch, .dispatch, .push (openingText 1 5), .dispatch, .look ⟨0⟩,
    .push (eventText 5 0), .hangUp, .dispatch]

/-- The dispatcher stops. -/
def hungUp : List Act := hangingUp ++ [.dispatch]

/-- The consumer looks twice, and somebody comes with a third request. -/
def lookingOn : List Act := [.read ⟨0⟩, .read ⟨0⟩, .send (.links "simulator")]

end System

/-- What comes of a stop, for the run up to it and for the run thereafter. -/
theorem Run.stop_reaches_waiting :
    ((System.plain.play System.hangingUp).channel.task? = some .stop
      ∧ (System.plain.play System.hangingUp).channel.held = true
      ∧ handledFrames (System.plain.log System.hangingUp)
        = (System.plain.arrivals System.hangingUp).map Frame.decode
      ∧ (System.plain.arrivals System.hangingUp).length = 2)
    ∧ (System.plain.play System.hungUp).channel.isStopped = true
      ∧ ((System.plain.play System.hungUp).channel.mailbox ⟨0⟩).events.map (·.seq) = [0]
      ∧ (System.plain.play System.hungUp).Ended System.lookingOn
        ((System.plain.play System.hungUp).play System.lookingOn) := by
  have htask : (System.plain.play System.hangingUp).channel.task? = some .stop :=
    Channel.Task.eq_stop (by decide +kernel)
  have hheld : (System.plain.play System.hangingUp).channel.held = true := by decide +kernel
  have hstop : (System.plain.play System.hungUp).channel.isStopped = true := by decide +kernel
  exact ⟨⟨htask, hheld, (Run.stop_reaches_all System.hangingUp rfl).2 htask hheld,
    by decide +kernel⟩, hstop, by decide +kernel,
    (Run.stop_reaches_all System.hungUp rfl).1 hstop System.lookingOn⟩

/-- Who asks for a subscription with a request that opens none is told so, also when the dispatcher
has stopped. -/
theorem System.refused_when_stopped :
    (System.plain.play System.hungUp).channel.isStopped = true
      ∧ (System.plain.play System.hungUp).connected = true
      ∧ ((Operation.startSubscribe .status (System.plain.play System.hungUp).channel).1.poll
          (System.plain.play System.hungUp).setting (System.plain.play System.hungUp).now
          (System.plain.play System.hungUp).channel).1
        = .ready (.error (.notASubscription "status"))
      ∧ ((Operation.startSubscribe .status (System.plain.play System.hungUp).channel).1.poll
          (System.plain.play System.hungUp).setting (System.plain.play System.hungUp).now
          (System.plain.play System.hungUp).channel).1
        ≠ .ready (.error .closed) := by
  refine ⟨by decide +kernel, by decide +kernel, rfl, ?_⟩
  rintro ⟨⟩

end GroundLink.Connection
