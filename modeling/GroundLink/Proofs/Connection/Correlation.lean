import GroundLink.Proofs.Connection.Numbers

/-!
# Requests and replies

A request is found in exactly one place, from its queueing until its reply: among the commands, in
the table of pending requests, or among the abandoned ones. So a caller has in its mailbox the first
reply to its number, whatever other replies there have been.
-/

namespace GroundLink.Connection

open Protocol

variable {τ : Nat} {h h' : List Note} {l l' : Ledger}

/-! ### What is kept -/

/-- A caller, its mailbox and its story. -/
structure Awaits (τ : Nat) (h : List Note) (l : Ledger) (t : Ticket) (x : Exchange) :
    Prop where
  ticket : x.ticket = t
  waiting : (l.mailbox t).waiting = true
  listening : (l.mailbox t).listening = x.routed
  reply : (l.mailbox t).reply = (story t h).answer
  ending : (story t h).ending = none
  queueing : x.stage = .queueing → (story t h).number = none ∧ (story t h).queuedAt = none
    ∧ ∀ r w, .send r (some w) ∈ l.commands → w.ticket ≠ t
  due : ∀ d, x.stage = .awaiting d → ∃ time, (story t h).queuedAt = some time ∧ d = time + τ
  queued : x.stage ≠ .queueing → (story t h).number = none → l.stopped = false →
    x.command ∈ l.commands
  routed : (story t h).number ≠ none → (story t h).routed = x.routed

/-- How the requests in a ledger stand to their stories. -/
structure Correlated (τ : Nat) (h : List Note) (l : Ledger) : Prop where
  /-- No two requests have the same number. -/
  apart : ∀ t u i, (story t h).number = some i → (story u h).number = some i → t = u
  fresh : ∀ t : Ticket, l.nextTicket ≤ t.val → story t h = .blank ∧ l.role t = .none
  /-- No request is queued twice. -/
  once : (l.commands.filterMap Command.ticket?).Nodup
  queued : ∀ r w, .send r (some w) ∈ l.commands →
    (story w.ticket h).number = none ∧ w.ticket.val < l.nextTicket
      ∧ ∀ x, l.role w.ticket = .caller x → w.routed = x.routed
  pending : ∀ i w, (i, w) ∈ l.pending →
    (story w.ticket h).number = some i ∧ (story w.ticket h).routed = w.routed
      ∧ (story w.ticket h).answer = none ∧ i ∉ l.abandoned
  abandoned : ∀ i ∈ l.abandoned, ∃ t, (story t h).number = some i ∧ (story t h).routed = true
    ∧ (story t h).answer = none ∧ (l.mailbox t).waiting = false
  /-- No request is forgotten that somebody waits for, or that may open a call. -/
  tracked : l.stopped = false → ∀ t i, (story t h).number = some i → (story t h).answer = none →
    (i, ⟨t, (story t h).routed⟩) ∈ l.pending
      ∨ (l.mailbox t).waiting = false ∧ ((story t h).routed = true → i ∈ l.abandoned)
  caller : ∀ t x, l.role t = .caller x → Awaits τ h l t x
  waiting : ∀ t, (l.mailbox t).waiting = true → ∃ x, l.role t = .caller x

/-- What a mailbox holds of the request itself is the same in another one. -/
structure Mailbox.Same (m m' : Mailbox) : Prop where
  waiting : m'.waiting = m.waiting
  listening : m'.listening = m.listening
  reply : m'.reply = m.reply

lemma Mailbox.Same.of_eq {m m' : Mailbox} (h : m' = m) : m.Same m' := by
  subst h
  exact ⟨rfl, rfl, rfl⟩

/-- A step that does not touch the request of a caller. -/
lemma Awaits.frame {t : Ticket} {x : Exchange} (ha : Awaits τ h l t x)
    (hmail : (l.mailbox t).Same (l'.mailbox t)) (hstory : (story t h).Same (story t (h ++ h')))
    (hending : (story t (h ++ h')).ending = (story t h).ending)
    (hcommands : ∀ r w, w.ticket = t → (.send r (some w) ∈ l'.commands ↔
      .send r (some w) ∈ l.commands))
    (hstopped : l'.stopped = false → l.stopped = false) : Awaits τ (h ++ h') l' t x where
  ticket := ha.ticket
  waiting := hmail.waiting.trans ha.waiting
  listening := hmail.listening.trans ha.listening
  reply := by rw [hmail.reply, ha.reply, hstory.answer]
  ending := hending.trans ha.ending
  queueing := by
    intro hq
    obtain ⟨hnumber, hat, hcmd⟩ := ha.queueing hq
    refine ⟨hstory.number.trans hnumber, hstory.queuedAt.trans hat, ?_⟩
    rintro r w hw ht
    exact hcmd r w ((hcommands r w ht).mp hw) ht
  due := by
    rw [hstory.queuedAt]
    exact ha.due
  queued := by
    rw [hstory.number]
    intro hq hnumber hrun
    exact (hcommands _ _ ha.ticket).mpr (ha.queued hq hnumber (hstopped hrun))
  routed := by
    rw [hstory.number, hstory.routed]
    exact ha.routed

/-- Another ledger with the same mailbox and commands. -/
lemma Awaits.congr {t : Ticket} {x : Exchange} (ha : Awaits τ h l t x)
    (hmail : l'.mailbox t = l.mailbox t) (hcommands : l'.commands = l.commands)
    (hstopped : l'.stopped = l.stopped) : Awaits τ h l' t x where
  ticket := ha.ticket
  waiting := hmail ▸ ha.waiting
  listening := hmail ▸ ha.listening
  reply := hmail ▸ ha.reply
  ending := ha.ending
  queueing := hcommands ▸ ha.queueing
  due := ha.due
  queued := hcommands ▸ hstopped ▸ ha.queued
  routed := ha.routed

/-- A caller that has just come awaits the reply to a request that is not queued yet. -/
lemma Awaits.start {x : Exchange} (hblank : story x.ticket h = .blank)
    (hmail : l.mailbox x.ticket = .start x.routed) (hstage : x.stage = .queueing)
    (hnone : ∀ r w, .send r (some w) ∈ l.commands → w.ticket ≠ x.ticket) :
    Awaits τ h l x.ticket x where
  ticket := rfl
  waiting := congrArg Mailbox.waiting hmail
  listening := congrArg Mailbox.listening hmail
  reply := by
    rw [hblank]
    exact congrArg Mailbox.reply hmail
  ending := by
    rw [hblank]
    rfl
  queueing := by
    rw [hblank]
    exact fun _ => ⟨rfl, rfl, hnone⟩
  due := by simp [hstage]
  queued := by simp [hstage]
  routed := by simp [hblank, Story.blank]

/-- The request of a caller is queued. -/
lemma Awaits.queue {t : Ticket} {x : Exchange} {now : Nat} (ha : Awaits τ h l t x)
    (hstory : story t (h ++ h') = { story t h with queuedAt := some now })
    (hmail : l'.mailbox t = l.mailbox t) (hcommands : x.command ∈ l'.commands) :
    Awaits τ (h ++ h') l' t { x with stage := .awaiting (now + τ) } where
  ticket := ha.ticket
  waiting := hmail ▸ ha.waiting
  listening := hmail ▸ ha.listening
  reply := by
    rw [hstory, hmail]
    exact ha.reply
  ending := by
    rw [hstory]
    exact ha.ending
  queueing := by rintro ⟨⟩
  due := by
    rintro d ⟨⟩
    rw [hstory]
    exact ⟨now, rfl, rfl⟩
  queued := fun _ _ _ => hcommands
  routed := by
    rw [hstory]
    exact ha.routed

/-- The request of a caller gets its number. -/
lemma Awaits.number {x : Exchange} {w : Waiter} {r : Request} {i : RequestId}
    (ha : Awaits τ h l w.ticket x) (hstory : story w.ticket (h ++ h')
      = { story w.ticket h with number := some i, routed := w.routed })
    (hqueued : .send r (some w) ∈ l.commands) (hrouted : w.routed = x.routed)
    (hmail : l'.mailbox w.ticket = l.mailbox w.ticket) : Awaits τ (h ++ h') l' w.ticket x where
  ticket := ha.ticket
  waiting := hmail ▸ ha.waiting
  listening := hmail ▸ ha.listening
  reply := by
    rw [hstory, hmail]
    exact ha.reply
  ending := by
    rw [hstory]
    exact ha.ending
  queueing := fun hq => absurd rfl ((ha.queueing hq).2.2 r w hqueued)
  due := by
    rw [hstory]
    exact ha.due
  queued := by
    rw [hstory]
    rintro _ ⟨⟩
  routed := by
    rw [hstory]
    exact fun _ => hrouted

/-- The dispatcher has stopped, with nothing queued for it. -/
lemma Awaits.halt {t : Ticket} {x : Exchange} (ha : Awaits τ h l t x)
    (hstory : story t (h ++ h') = story t h) : Awaits τ (h ++ h') l.halted t x where
  ticket := ha.ticket
  waiting := ha.waiting
  listening := ha.listening
  reply := hstory ▸ ha.reply
  ending := hstory ▸ ha.ending
  queueing := by
    rw [hstory]
    intro hq
    obtain ⟨hnumber, hat, _⟩ := ha.queueing hq
    exact ⟨hnumber, hat, by rintro r w ⟨⟩⟩
  due := hstory ▸ ha.due
  queued := by rintro _ _ ⟨⟩
  routed := hstory ▸ ha.routed

/-- A reply is handled, and the caller finds it if it is the first one to its number. -/
lemma Awaits.settle {t : Ticket} {x : Exchange} {r : Reply} (ha : Awaits τ h l t x)
    (hstory : story t (h ++ h') = story t h
      ∨ story t (h ++ h') = { story t h with answer := some r })
    (hmail : l'.mailbox t = { l.mailbox t with reply := (story t (h ++ h')).answer })
    (hcommands : l'.commands = l.commands) (hstopped : l'.stopped = l.stopped) :
    Awaits τ (h ++ h') l' t x where
  ticket := ha.ticket
  waiting := by
    rw [hmail]
    exact ha.waiting
  listening := by
    rw [hmail]
    exact ha.listening
  reply := by rw [hmail]
  ending := by
    rcases hstory with hstory | hstory <;> rw [hstory] <;> exact ha.ending
  queueing := by
    rw [hcommands]
    rcases hstory with hstory | hstory <;> rw [hstory] <;> exact ha.queueing
  due := by
    rcases hstory with hstory | hstory <;> rw [hstory] <;> exact ha.due
  queued := by
    rw [hcommands, hstopped]
    rcases hstory with hstory | hstory <;> rw [hstory] <;> exact ha.queued
  routed := by
    rcases hstory with hstory | hstory <;> rw [hstory] <;> exact ha.routed

namespace Correlated

/-! ### Steps that leave the requests alone -/

/-- The requests and their callers are the same in another ledger. -/
structure Alike (l l' : Ledger) : Prop where
  ticket : l'.nextTicket = l.nextTicket
  once : l'.commands.filterMap Command.ticket? = l.commands.filterMap Command.ticket?
  commands : ∀ r w, .send r (some w) ∈ l'.commands ↔ .send r (some w) ∈ l.commands
  pending : l'.pending = l.pending
  abandoned : l'.abandoned = l.abandoned
  stopped : l'.stopped = l.stopped
  caller : ∀ t x, l'.role t = .caller x ↔ l.role t = .caller x
  nobody : ∀ t, l.role t = .none → l'.role t = .none
  waiting : ∀ t, (l'.mailbox t).waiting = (l.mailbox t).waiting
  mailbox : ∀ t x, l.role t = .caller x → (l.mailbox t).Same (l'.mailbox t)

lemma Alike.of_eq (hticket : l'.nextTicket = l.nextTicket) (hcommands : l'.commands = l.commands)
    (hpending : l'.pending = l.pending) (habandoned : l'.abandoned = l.abandoned)
    (hstopped : l'.stopped = l.stopped) (hrole : l'.role = l.role)
    (hmailbox : l'.mailbox = l.mailbox) : Alike l l' where
  ticket := hticket
  once := by rw [hcommands]
  commands := by simp [hcommands]
  pending := hpending
  abandoned := habandoned
  stopped := hstopped
  caller := by simp [hrole]
  nobody := by simp [hrole]
  waiting := by simp [hmailbox]
  mailbox := fun t _ _ => .of_eq (congrFun hmailbox t)

/-- A step that does not touch the requests or their callers. -/
lemma frame (hc : Correlated τ h l) (ha : Alike l l')
    (hstory : ∀ t, (story t h).Same (story t (h ++ h')))
    (hending : ∀ t x, l.role t = .caller x → (story t (h ++ h')).ending = (story t h).ending)
    (hblank : ∀ t, l.role t = .none → story t h = .blank → story t (h ++ h') = .blank) :
    Correlated τ (h ++ h') l' := by
  obtain ⟨hticket, honce, hcommands, hpending, habandoned, hstopped, hcaller, hnobody, hwaiting,
    hmailbox⟩ := ha
  have hnumber := fun t => (hstory t).number
  have hrouted := fun t => (hstory t).routed
  have hanswer := fun t => (hstory t).answer
  exact {
    apart := by grind [hc.apart]
    fresh := by grind [hc.fresh]
    once := by
      rw [honce]
      exact hc.once
    queued := by grind [hc.queued]
    pending := by grind [hc.pending]
    abandoned := by grind [hc.abandoned]
    tracked := by grind [hc.tracked]
    caller := by
      intro t x hx
      have hx' := (hcaller t x).mp hx
      exact (hc.caller t x hx').frame (hmailbox t x hx') (hstory t) (hending t x hx')
        (fun r w _ => hcommands r w) (by rw [hstopped]; exact id)
    waiting := by grind [hc.waiting] }

/-- A step whose notes tell nothing. -/
lemma silent (hc : Correlated τ h l) (ha : Alike l l')
    (hstory : ∀ t, story t (h ++ h') = story t h) : Correlated τ (h ++ h') l' :=
  hc.frame ha (fun t => hstory t ▸ .refl _) (fun t _ _ => by rw [hstory t])
    (fun t _ ht => (hstory t).trans ht)

/-- A step of a consumer, or of the dispatcher where it handles no reply. -/
lemma quiet (hc : Correlated τ h l) {n : Note} (ha : Alike l l') (hn : n.asks = false)
    (hparty : ∀ t, n.party? = some t → ∃ s, l.role t = .consumer s) :
    Correlated τ (h ++ [n]) l' := by
  refine hc.frame ha ?_ ?_ ?_
  all_goals
    intro t
    rw [story_append_singleton]
  · exact Story.same_note hn
  · intro x hx
    refine Story.ending_note fun ht => ?_
    obtain ⟨s, hs⟩ := hparty t ht
    rw [hx] at hs
    cases hs
  · intro hnone hblank
    rw [hblank]
    refine Story.blank_note hn fun ht => ?_
    obtain ⟨s, hs⟩ := hparty t ht
    rw [hnone] at hs
    cases hs

/-- A caller leaves its request. -/
lemma leave (hc : Correlated τ h l) {t : Ticket} {x : Exchange} {m : Mailbox} {r : Role}
    (hrole : l.role t = .caller x) (hm : m.waiting = false) (hr : ∀ y, r ≠ .caller y)
    (hstory : ∀ u, (story u h).Same (story u (h ++ h')))
    (hother : ∀ u, u ≠ t → story u (h ++ h') = story u h) :
    Correlated τ (h ++ h') ((l.setMailbox t m).setRole t r) := by
  have hnumber := fun u => (hstory u).number
  have hrouted := fun u => (hstory u).routed
  have hanswer := fun u => (hstory u).answer
  exact {
    apart := by grind [hc.apart]
    fresh := by grind [hc.fresh]
    once := hc.once
    queued := by grind [hc.queued]
    pending := by grind [hc.pending]
    abandoned := by grind [hc.abandoned]
    tracked := by grind [hc.tracked]
    caller := by
      intro u y hu
      have hut : u ≠ t := by
        rintro rfl
        exact hr y ((Function.update_self ..).symm.trans hu)
      have hu' : l.role u = .caller y := (Function.update_of_ne hut ..).symm.trans hu
      have hending : (story u (h ++ h')).ending = (story u h).ending := by rw [hother u hut]
      exact (hc.caller u y hu').frame (.of_eq (Function.update_of_ne hut ..)) (hstory u) hending
        (fun _ _ _ => Iff.rfl) id
    waiting := by grind [hc.waiting] }

/-! ### Beginnings -/

/-- A caller comes with a new request. -/
lemma enter (hc : Correlated τ h l) {x : Exchange} (hx : x.ticket.val = l.nextTicket)
    (hstage : x.stage = .queueing) :
    Correlated τ h
      ({ l with nextTicket := l.nextTicket + 1 }.setMailbox x.ticket (.start x.routed)
        |>.setRole x.ticket (.caller x)) := by
  obtain ⟨hblank, -⟩ := hc.fresh x.ticket (Nat.le_of_eq hx.symm)
  have hold : ∀ t i, (story t h).number = some i → t ≠ x.ticket := by
    rintro t i hi rfl
    simp [hblank, Story.blank] at hi
  exact {
    apart := hc.apart
    fresh := by grind [hc.fresh]
    once := hc.once
    queued := by grind [hc.queued]
    pending := hc.pending
    abandoned := by grind [hc.abandoned]
    tracked := by grind [hc.tracked]
    caller := by
      intro u y hu
      by_cases hut : u = x.ticket
      · subst hut
        obtain rfl : x = y := by
          have := (Function.update_self ..).symm.trans hu
          injection this
        have hmail : (Function.update l.mailbox x.ticket (.start x.routed)) x.ticket
            = .start x.routed := Function.update_self ..
        refine .start hblank hmail hstage fun r w hw hwx => ?_
        have hlt := (hc.queued r w hw).2.1
        rw [hwx] at hlt
        omega
      · have hu' : l.role u = .caller y := (Function.update_of_ne hut ..).symm.trans hu
        exact (hc.caller u y hu').congr (Function.update_of_ne hut ..) rfl rfl
    waiting := by grind [hc.waiting] }

/-- A ticket is given out for something else. -/
lemma ticket (hc : Correlated τ h l) :
    Correlated τ h
      ({ l with nextTicket := l.nextTicket + 1 }.setRole ⟨l.nextTicket⟩ .none) := by
  have hnew : l.role ⟨l.nextTicket⟩ = .none := (hc.fresh _ (Nat.le_refl _)).2
  have hrole : ∀ t x, ({ l with nextTicket := l.nextTicket + 1 }.setRole ⟨l.nextTicket⟩
      .none).role t = .caller x ↔ l.role t = .caller x := by
    grind
  exact {
    apart := hc.apart
    fresh := by grind [hc.fresh]
    once := hc.once
    queued := by grind [hc.queued]
    pending := hc.pending
    abandoned := hc.abandoned
    tracked := hc.tracked
    caller := fun t x hx => (hc.caller t x ((hrole t x).mp hx)).congr rfl rfl rfl
    waiting := by grind [hc.waiting] }

/-! ### Queueing and numbering -/

lemma ticket_of_mem {c : Command} {t : Ticket} (hc : c.ticket? = some t) :
    ∃ r w, c = .send r (some w) ∧ w.ticket = t := by
  cases c with
  | close => cases hc
  | send r w => cases w with
    | none => cases hc
    | some w => exact ⟨r, w, rfl, Option.some.inj hc⟩

/-- A request is queued. -/
lemma queue (hc : Correlated τ h l) {t : Ticket} {x : Exchange} {now : Nat}
    (hrole : l.role t = .caller x) (hstage : x.stage = .queueing) :
    Correlated τ (h ++ [.queued t now])
      ({ l with commands := l.commands ++ [x.command] }.setRole t
        (.caller { x with stage := .awaiting (now + τ) })) := by
  have ha := hc.caller t x hrole
  obtain ⟨hnumber, _, hcmd⟩ := ha.queueing hstage
  have hstory : ∀ u, story u (h ++ [.queued t now])
      = if t = u then { story u h with queuedAt := some now } else story u h := by
    intro u
    rw [story_append_singleton]
    rfl
  have hmem : ∀ r w, Command.send r (some w) ∈ l.commands ++ [x.command]
      ↔ .send r (some w) ∈ l.commands ∨ r = x.request ∧ w = ⟨t, x.routed⟩ := by
    intro r w
    simp [Exchange.command, ha.ticket]
  exact {
    apart := by grind [hc.apart]
    fresh := by grind [hc.fresh]
    once := by
      have hnot : t ∉ l.commands.filterMap Command.ticket? := by
        rw [List.mem_filterMap]
        rintro ⟨c, hc, hct⟩
        obtain ⟨r, w, rfl, hw⟩ := ticket_of_mem hct
        exact hcmd r w hc hw
      have hone : [x.command].filterMap Command.ticket? = [t] := by
        simp [Exchange.command, Command.ticket?, ha.ticket]
      rw [Ledger.setRole_commands, List.filterMap_append, hone, List.nodup_append]
      exact ⟨hc.once, by simp, by grind⟩
    queued := by
      intro r w hw
      rw [Ledger.setRole_commands, hmem] at hw
      rcases hw with hw | ⟨rfl, rfl⟩
      · grind [hc.queued]
      · grind [hc.fresh]
    pending := by grind [hc.pending]
    abandoned := by grind [hc.abandoned]
    tracked := by grind [hc.tracked]
    caller := by
      intro u y hu
      by_cases hut : u = t
      · subst hut
        obtain rfl : { x with stage := .awaiting (now + τ) } = y := by
          have hy := (Function.update_self ..).symm.trans hu
          injection hy
        have hnow : story u (h ++ [.queued u now]) = { story u h with queuedAt := some now } := by
          rw [hstory, if_pos rfl]
        exact ha.queue hnow rfl (List.mem_append_right _ (List.mem_singleton_self _))
      · have hu' : l.role u = .caller y := (Function.update_of_ne hut ..).symm.trans hu
        have hold : story u (h ++ [.queued t now]) = story u h := by
          rw [hstory, if_neg (Ne.symm hut)]
        refine (hc.caller u y hu').frame (.of_eq rfl) (hold ▸ .refl _) (by rw [hold]) ?_ id
        intro r w hw
        rw [Ledger.setRole_commands, hmem]
        refine or_iff_left ?_
        rintro ⟨-, rfl⟩
        exact hut hw.symm
    waiting := by grind [hc.waiting] }

/-- A request without a caller to be answered gets the next number. -/
lemma number_none (hc : Correlated τ h l) {r : Request} {rest : List Command}
    (hcommands : l.commands = .send r none :: rest) :
    Correlated τ (h ++ [.sent ⟨l.nextId, r⟩ none]) (l.numbering r none rest) := by
  have hstory : ∀ u, story u (h ++ [.sent ⟨l.nextId, r⟩ none]) = story u h := fun u =>
    story_append_singleton ..
  refine hc.silent ⟨rfl, ?_, ?_, rfl, rfl, rfl, fun _ _ => Iff.rfl, fun _ => id, fun _ => rfl,
    fun _ _ _ => .of_eq rfl⟩ hstory
  · rw [hcommands]
    rfl
  · intro r' w'
    rw [hcommands]
    simp [Ledger.numbering]

/-- A queued request gets the next number, and is pending. -/
lemma number (hc : Correlated τ h l) (hn : Numbered h l) {r : Request} {w : Waiter}
    {rest : List Command} (hrun : l.stopped = false)
    (hcommands : l.commands = .send r (some w) :: rest)
    (hlen : (numbered h).length < UInt64.size) :
    Correlated τ (h ++ [.sent ⟨l.nextId, r⟩ (some w)]) (l.numbering r (some w) rest) := by
  -- The number is new: no story has it yet.
  have hfresh : ∀ u, (story u h).number ≠ some l.nextId := fun u hu =>
    hn.next_fresh hlen (story_number_mem hu)
  have hrest : ∀ r' w', .send r' (some w') ∈ rest → .send r' (some w') ∈ l.commands := by
    intro r' w' hw
    rw [hcommands]
    exact List.mem_cons_of_mem _ hw
  obtain ⟨hnone, hlt, hrouted⟩ := hc.queued r w (by rw [hcommands]; exact List.mem_cons_self)
  have hstory : ∀ u, story u (h ++ [.sent ⟨l.nextId, r⟩ (some w)]) = if w.ticket = u then
      { story u h with number := some l.nextId, routed := w.routed } else story u h := by
    intro u
    rw [story_append_singleton]
    by_cases hu : w.ticket = u
    · subst hu
      simp [Story.note, hnone]
    · simp [Story.note, hu]
  have hunanswered : (story w.ticket h).answer = none := by
    by_contra ha
    exact story_answered w.ticket h ha hnone
  have honce := hc.once
  rw [hcommands] at honce
  have hnot : ∀ r' w', .send r' (some w') ∈ rest → w'.ticket ≠ w.ticket := by
    intro r' w' hw' heq
    refine (List.nodup_cons.mp honce).1 (List.mem_filterMap.mpr ⟨_, hw', ?_⟩)
    exact congrArg some heq
  have hpending : ∀ i w', (i, w') ∈ (l.numbering r (some w) rest).pending
      ↔ (i, w') ∈ l.pending ∧ i ≠ l.nextId ∨ i = l.nextId ∧ w' = w := fun i w' =>
    Table.mem_insert
  exact {
    apart := by
      intro t u i ht hu
      rw [hstory] at ht hu
      split at ht <;> split at hu
      · exact ‹w.ticket = t›.symm.trans ‹w.ticket = u›
      · obtain rfl : l.nextId = i := Option.some.inj ht
        exact absurd hu (hfresh u)
      · obtain rfl : l.nextId = i := Option.some.inj hu
        exact absurd ht (hfresh t)
      · exact hc.apart t u i ht hu
    fresh := by
      intro t ht
      have htw : w.ticket ≠ t := by
        rintro rfl
        exact Nat.not_lt.mpr ht hlt
      rw [hstory, if_neg htw]
      exact hc.fresh t ht
    once := (List.nodup_cons.mp honce).2
    queued := by
      intro r' w' hw'
      rw [hstory, if_neg (Ne.symm (hnot r' w' hw'))]
      exact hc.queued r' w' (hrest r' w' hw')
    pending := by
      intro i w' hw'
      rcases (hpending i w').mp hw' with ⟨hold, _⟩ | ⟨rfl, rfl⟩
      · have hp := hc.pending i w' hold
        have hww : w.ticket ≠ w'.ticket := by
          intro hww
          rw [← hww, hnone] at hp
          cases hp.1
        rw [hstory, if_neg hww]
        exact hp
      · rw [hstory, if_pos rfl]
        refine ⟨rfl, rfl, hunanswered, ?_⟩
        intro hmem
        obtain ⟨t, ht, -⟩ := hc.abandoned _ hmem
        exact hfresh t ht
    abandoned := by
      intro i hi
      obtain ⟨t, ht, hrest⟩ := hc.abandoned i hi
      have htw : w.ticket ≠ t := by
        rintro rfl
        rw [hnone] at ht
        cases ht
      exact ⟨t, by rw [hstory, if_neg htw]; exact ⟨ht, hrest⟩⟩
    tracked := by
      intro _ t i ht ha
      rw [hstory] at ht ha ⊢
      split at ht
      · rename_i htw
        subst htw
        obtain rfl : l.nextId = i := Option.some.inj ht
        rw [if_pos rfl]
        exact .inl ((hpending _ _).mpr (.inr ⟨rfl, rfl⟩))
      · rename_i htw
        rw [if_neg htw] at ha ⊢
        refine (hc.tracked hrun t i ht ha).imp_left fun hmem => (hpending _ _).mpr (.inl ⟨hmem, ?_⟩)
        rintro rfl
        exact hfresh t ht
    caller := by
      intro t x hx
      have ha := hc.caller t x hx
      by_cases htw : w.ticket = t
      · subst htw
        have hnow := hstory w.ticket
        rw [if_pos rfl] at hnow
        exact ha.number hnow (by rw [hcommands]; exact List.mem_cons_self) (hrouted x hx) rfl
      · have hold : story t (h ++ [.sent ⟨l.nextId, r⟩ (some w)]) = story t h := by
          rw [hstory, if_neg htw]
        refine ha.frame (.of_eq rfl) (hold ▸ .refl _) (by rw [hold]) ?_ id
        intro r' w' hw'
        refine ⟨hrest r' w', ?_⟩
        rw [hcommands, List.mem_cons]
        rintro (heq | hmem)
        · injection heq with _ hww
          injection hww with hww
          rw [hww] at hw'
          exact absurd hw' htw
        · exact hmem
    waiting := hc.waiting }

/-- Requests that nobody waits for are forgotten. -/
lemma sweep (hc : Correlated τ h l) : Correlated τ h l.swept := by
  have hpending : ∀ i w, (i, w) ∈ l.swept.pending
      ↔ (i, w) ∈ l.pending ∧ (l.mailbox w.ticket).waiting = true := by
    intro i w
    simp [Ledger.swept, Ledger.isDeserted]
  have habandoned : ∀ i, i ∈ l.swept.abandoned ↔ i ∈ l.abandoned
      ∨ ∃ w, (i, w) ∈ l.pending ∧ w.routed = true ∧ (l.mailbox w.ticket).waiting = false := by
    intro i
    simp [Ledger.swept, Ledger.isDeserted]
  exact {
    apart := hc.apart
    fresh := hc.fresh
    once := hc.once
    queued := hc.queued
    pending := by
      intro i w hw
      obtain ⟨hw, hwaiting⟩ := (hpending i w).mp hw
      obtain ⟨hnumber, hrouted, hanswer, hnot⟩ := hc.pending i w hw
      refine ⟨hnumber, hrouted, hanswer, ?_⟩
      rw [habandoned]
      rintro (hi | ⟨w', hw', -, hgone⟩)
      · exact hnot hi
      · rw [← hc.apart _ _ i hnumber (hc.pending i w' hw').1, hwaiting] at hgone
        cases hgone
    abandoned := by
      intro i hi
      rcases (habandoned i).mp hi with hi | ⟨w, hw, hrouted, hgone⟩
      · exact hc.abandoned i hi
      · obtain ⟨hnumber, hrouted', hanswer, -⟩ := hc.pending i w hw
        exact ⟨w.ticket, hnumber, hrouted'.trans hrouted, hanswer, hgone⟩
    tracked := by
      intro hrun t i hnumber hanswer
      rcases hc.tracked hrun t i hnumber hanswer with hmem | ⟨hgone, habandon⟩
      · cases hwaiting : (l.mailbox t).waiting with
        | true => exact .inl ((hpending _ _).mpr ⟨hmem, hwaiting⟩)
        | false =>
          exact .inr ⟨hwaiting, fun hrouted =>
            (habandoned i).mpr (.inr ⟨_, hmem, hrouted, hwaiting⟩)⟩
      · exact .inr ⟨hgone, fun hrouted => (habandoned i).mpr (.inl (habandon hrouted))⟩
    caller := fun t x hx => (hc.caller t x hx).congr rfl rfl rfl
    waiting := hc.waiting }

/-- The dispatcher stops. -/
lemma halt (hc : Correlated τ h l) : Correlated τ (h ++ [.stopped]) l.halted := by
  have hstory : ∀ u, story u (h ++ [.stopped]) = story u h := fun u => story_append_singleton ..
  exact {
    apart := by grind [hc.apart]
    fresh := by
      intro t ht
      rw [hstory]
      exact hc.fresh t ht
    once := List.nodup_nil
    queued := by rintro r w ⟨⟩
    pending := by rintro i w ⟨⟩
    abandoned := by rintro i ⟨⟩
    tracked := by rintro ⟨⟩
    caller := fun t x hx => (hc.caller t x hx).halt (hstory t)
    waiting := hc.waiting }

/-! ### Replies -/

lemma story_reply {t : Ticket} {r : Reply} {id : RequestId} (hid : r.request = some id) :
    story t (h ++ [.handled (.reply r)])
      = if (story t h).number = some id ∧ (story t h).answer = none then
          { story t h with answer := some r }
        else story t h := by
  rw [story_append_singleton]
  by_cases hs : (story t h).number = some id ∧ (story t h).answer = none
  · rw [if_pos hs]
    simp [Story.note, hid, hs.1, hs.2]
  · rw [if_neg hs]
    grind [Story.note]

/-- A reply is handled: the request with its number is tracked no more, and a caller who waits for
it finds it in its mailbox. -/
lemma settle (hc : Correlated τ h l) {id : RequestId} {r : Reply}
    (hid : r.request = some id)
    (hpending : ∀ i w, (i, w) ∈ l'.pending ↔ (i, w) ∈ l.pending ∧ i ≠ id)
    (habandoned : ∀ i, i ∈ l'.abandoned ↔ i ∈ l.abandoned ∧ i ≠ id)
    (hcommands : l'.commands = l.commands) (hticket : l'.nextTicket = l.nextTicket)
    (hstopped : l'.stopped = l.stopped) (hrole : l'.role = l.role)
    (hmail : ∀ t, l'.mailbox t = if (story t h).number = some id ∧ (story t h).answer = none
      ∧ (l.mailbox t).waiting = true then { l.mailbox t with reply := some r } else l.mailbox t) :
    Correlated τ (h ++ [.handled (.reply r)]) l' := by
  have hstory := fun t => story_reply (h := h) (t := t) hid
  have hnumber : ∀ t, (story t (h ++ [.handled (.reply r)])).number = (story t h).number := by
    grind
  have hrouted : ∀ t, (story t (h ++ [.handled (.reply r)])).routed = (story t h).routed := by
    grind
  have hwaiting : ∀ t, (l'.mailbox t).waiting = (l.mailbox t).waiting := by
    grind
  have hanswer : ∀ t i, (story t h).number = some i → i ≠ id →
      (story t (h ++ [.handled (.reply r)])).answer = (story t h).answer := by
    grind
  have hnone : ∀ t, (story t (h ++ [.handled (.reply r)])).answer = none →
      (story t h).answer = none ∧ (story t h).number ≠ some id := by
    grind
  exact {
    apart := by grind [hc.apart]
    fresh := by
      intro t ht
      obtain ⟨hblank, hnot⟩ := hc.fresh t (hticket ▸ ht)
      rw [hstory, hblank, hrole]
      exact ⟨if_neg (by rintro ⟨⟨⟩, -⟩), hnot⟩
    once := by
      rw [hcommands]
      exact hc.once
    queued := by
      rw [hcommands, hticket, hrole]
      intro r' w hw
      rw [hnumber]
      exact hc.queued r' w hw
    pending := by
      intro i w hw
      obtain ⟨hw, hi⟩ := (hpending i w).mp hw
      obtain ⟨h₁, h₂, h₃, h₄⟩ := hc.pending i w hw
      refine ⟨(hnumber _).trans h₁, (hrouted _).trans h₂, (hanswer _ i h₁ hi).trans h₃, ?_⟩
      rw [habandoned]
      exact fun h => h₄ h.1
    abandoned := by
      intro i hi
      obtain ⟨hi, hne⟩ := (habandoned i).mp hi
      obtain ⟨t, h₁, h₂, h₃, h₄⟩ := hc.abandoned i hi
      exact ⟨t, (hnumber t).trans h₁, (hrouted t).trans h₂, (hanswer t i h₁ hne).trans h₃,
        (hwaiting t).trans h₄⟩
    tracked := by
      intro hrun t i ht ha
      rw [hnumber] at ht
      obtain ⟨ha, hne⟩ := hnone t ha
      have hi : i ≠ id := by
        rintro rfl
        exact hne ht
      rw [hrouted, hwaiting]
      refine (hc.tracked (hstopped ▸ hrun) t i ht ha).imp ?_ ?_
      · exact fun hmem => (hpending _ _).mpr ⟨hmem, hi⟩
      · exact fun ⟨hgone, habandon⟩ => ⟨hgone, fun hr => (habandoned i).mpr ⟨habandon hr, hi⟩⟩
    caller := by
      intro t x hx
      rw [hrole] at hx
      have ha := hc.caller t x hx
      by_cases hs : (story t h).number = some id ∧ (story t h).answer = none
      · have hnow := (hstory t).trans (if_pos hs)
        refine ha.settle (.inr hnow) ?_ hcommands hstopped
        rw [hmail, if_pos ⟨hs.1, hs.2, ha.waiting⟩, hnow]
      · have hold := (hstory t).trans (if_neg hs)
        refine ha.settle (r := r) (.inl hold) ?_ hcommands hstopped
        rw [hmail, if_neg fun hand => hs ⟨hand.1, hand.2.1⟩, hold, ← ha.reply]
    waiting := by
      intro t ht
      rw [hwaiting] at ht
      rw [hrole]
      exact hc.waiting t ht }

/-- A caller whose request is pending takes the first reply to its number. -/
lemma number_of_find (hc : Correlated τ h l) {id : RequestId} {w : Waiter}
    (hfind : l.pending.find? id = some w) (t : Ticket) :
    (story t h).number = some id ∧ (story t h).answer = none ↔ t = w.ticket := by
  obtain ⟨hnumber, -, hanswer, -⟩ := hc.pending id w (Table.mem_of_find? hfind)
  constructor
  · exact fun ht => hc.apart t w.ticket id ht.1 hnumber
  · rintro rfl
    exact ⟨hnumber, hanswer⟩

/-- Nobody waits for a reply to a request that is not pending. -/
lemma not_waiting_of_find (hc : Correlated τ h l) (hrun : l.stopped = false)
    {id : RequestId} (hfind : l.pending.find? id = none) (t : Ticket) :
    ¬((story t h).number = some id ∧ (story t h).answer = none
      ∧ (l.mailbox t).waiting = true) := by
  rintro ⟨hnumber, hanswer, hwaiting⟩
  rcases hc.tracked hrun t id hnumber hanswer with hmem | ⟨hgone, -⟩
  · exact Table.not_mem_of_find? hfind _ hmem
  · rw [hwaiting] at hgone
    cases hgone

lemma mem_pending_iff_of_find {id i : RequestId} {w : Waiter} (hfind : l.pending.find? id = none) :
    (i, w) ∈ l.pending ↔ (i, w) ∈ l.pending ∧ i ≠ id := by
  refine ⟨fun hmem => ⟨hmem, ?_⟩, And.left⟩
  rintro rfl
  exact Table.not_mem_of_find? hfind w hmem

lemma mem_iff_of_not_mem {id i : RequestId} {ids : List RequestId} (hnot : id ∉ ids) :
    i ∈ ids ↔ i ∈ ids ∧ i ≠ id :=
  ⟨fun hi => ⟨hi, fun heq => hnot (heq ▸ hi)⟩, And.left⟩

/-- The caller who waits finds the reply. -/
lemma answer (hc : Correlated τ h l) {id : RequestId} {w : Waiter} {r : Reply}
    (hid : r.request = some id) (hfind : l.pending.find? id = some w)
    (hwaiting : (l.mailbox w.ticket).waiting = true) :
    Correlated τ (h ++ [.handled (.reply r)])
      ((l.resolving id w r).setMailbox w.ticket { l.mailbox w.ticket with reply := some r }) := by
  have hnot := (hc.pending id w (Table.mem_of_find? hfind)).2.2.2
  refine hc.settle hid (fun _ _ => Table.mem_erase) (fun _ => mem_iff_of_not_mem hnot) rfl rfl rfl
    rfl fun t => ?_
  have ht := hc.number_of_find hfind t
  rw [Ledger.setMailbox_mailbox]
  by_cases htw : t = w.ticket
  · subst htw
    rw [if_pos rfl, if_pos ⟨(ht.mpr rfl).1, (ht.mpr rfl).2, hwaiting⟩]
  · rw [if_neg htw, if_neg (fun h => htw (ht.mp ⟨h.1, h.2.1⟩))]
    rfl

/-- Nobody finds a reply whose caller is gone. -/
lemma late (hc : Correlated τ h l) {id : RequestId} {w : Waiter} {r : Reply}
    (hid : r.request = some id) (hfind : l.pending.find? id = some w)
    (hgone : (l.mailbox w.ticket).waiting = false) :
    Correlated τ (h ++ [.handled (.reply r)])
      { l.resolving id w r with cancels := (Channel.opened? w r).toList ++ l.cancels } := by
  have hnot := (hc.pending id w (Table.mem_of_find? hfind)).2.2.2
  refine hc.settle hid (fun _ _ => Table.mem_erase) (fun _ => mem_iff_of_not_mem hnot) rfl rfl rfl
    rfl fun t => ?_
  rw [if_neg]
  · rfl
  · rintro ⟨h₁, h₂, h₃⟩
    obtain rfl := (hc.number_of_find hfind t).mp ⟨h₁, h₂⟩
    cases hgone.symm.trans h₃

/-- A reply to no pending request is nobody's, and the request need not be remembered any more. -/
lemma unclaimed (hc : Correlated τ h l) {id : RequestId} {r : Reply} (hid : r.request = some id)
    (hrun : l.stopped = false) (hfind : l.pending.find? id = none)
    (habandoned : ∀ i, i ∈ l'.abandoned ↔ i ∈ l.abandoned ∧ i ≠ id)
    (hpending : l'.pending = l.pending) (hcommands : l'.commands = l.commands)
    (hticket : l'.nextTicket = l.nextTicket) (hstopped : l'.stopped = l.stopped)
    (hrole : l'.role = l.role) (hmailbox : l'.mailbox = l.mailbox) :
    Correlated τ (h ++ [.handled (.reply r)]) l' := by
  refine hc.settle hid (fun i w => ?_) habandoned hcommands hticket hstopped hrole fun t => ?_
  · rw [hpending]
    exact mem_pending_iff_of_find hfind
  · rw [hmailbox]
    exact (if_neg (hc.not_waiting_of_find hrun hfind t)).symm

lemma pass (hc : Correlated τ h l) {r : Reply} (hrun : l.stopped = false)
    (hnone : ∀ id, r.request = some id → l.pending.find? id = none ∧ id ∉ l.abandoned) :
    Correlated τ (h ++ [.handled (.reply r)]) l := by
  cases hid : r.request with
  | none =>
    refine hc.silent (.of_eq rfl rfl rfl rfl rfl rfl rfl) fun t => ?_
    rw [story_append_singleton]
    grind [Story.note]
  | some id =>
    obtain ⟨hfind, hnot⟩ := hnone id hid
    exact hc.unclaimed hid hrun hfind (fun _ => mem_iff_of_not_mem hnot) rfl rfl rfl rfl rfl rfl

/-! ### All steps -/

/-- A caller leaves, and this is noted. -/
lemma leave_note (hc : Correlated τ h l) {t : Ticket} {x : Exchange} {m : Mailbox} {n : Note}
    (hrole : l.role t = .caller x) (hm : m.waiting = false) (hn : n.asks = false)
    (hparty : n.party? = some t) :
    Correlated τ (h ++ [n]) ((l.setMailbox t m).setRole t .none) := by
  refine hc.leave hrole hm (by rintro y ⟨⟩) (fun u => ?_) fun u hu => ?_
  · rw [story_append_singleton]
    exact Story.same_note hn
  · rw [story_append_singleton]
    exact Story.note_of_party hn hparty hu

/-- Every step keeps the requests and replies together. -/
lemma step (hc : Correlated τ h l) (hn : Numbered h l)
    (hlen : (numbered (h ++ h')).length ≤ UInt64.size)
    (hs : Ledger.Step τ l h' l') : Correlated τ (h ++ h') l' := by
  have hnil : ∀ l', Alike l l' → Correlated τ (h ++ []) l' := fun l' ha =>
    hc.silent ha fun t => by rw [List.append_nil]
  cases hs with
  | enter x ht hstage =>
    rw [List.append_nil]
    exact hc.enter ht hstage
  | ticket =>
    rw [List.append_nil]
    exact hc.ticket
  | queue now hrun hrole ht hstage => exact hc.queue hrole hstage
  | order hrun hnone =>
    refine hnil _ ⟨rfl, ?_, ?_, rfl, rfl, rfl, fun _ _ => Iff.rfl, fun _ => id, fun _ => rfl,
      fun _ _ _ => .of_eq rfl⟩
    · simp [hnone]
    · rintro r w
      simp only [List.mem_append, List.mem_singleton, or_iff_left_iff_imp]
      rintro rfl
      cases hnone
  | fail e hrole hreply => exact hc.leave_note hrole rfl rfl rfl
  | finish hrole hrouted hkeeps => exact hc.leave_note hrole rfl rfl rfl
  | abandon hrole => exact hc.leave_note hrole rfl rfl rfl
  | «open» topic hrole hrouted hreply hrejection hcall =>
    refine hc.leave hrole rfl (by rintro y ⟨⟩) ?_ ?_
    · exact fun u => by rw [List.append_nil]; exact .refl _
    · exact fun u _ => by rw [List.append_nil]
  | tell hkeeps =>
    refine hc.silent (.of_eq rfl rfl rfl rfl rfl rfl rfl) fun t => ?_
    rw [story_append_singleton]
    exact Story.note_of_keeps hkeeps
  | @release t s n hrole hstate hnote =>
    have hn : n.asks = false ∧ n.party? = some t := by
      obtain rfl | ⟨e, rfl⟩ := hnote <;> exact ⟨rfl, rfl⟩
    refine hc.quiet ⟨rfl, rfl, fun _ _ => Iff.rfl, rfl, rfl, rfl, ?_, ?_, ?_, ?_⟩ hn.1 ?_
    · grind
    · grind
    · grind [Mailbox.closed]
    · grind [Mailbox.Same]
    · grind
  | @drop t s n hrole hstate hnote =>
    have hn : n.asks = false ∧ n.party? = some t := by
      obtain rfl | ⟨e, rfl⟩ := hnote <;> exact ⟨rfl, rfl⟩
    refine hc.quiet ⟨rfl, rfl, fun _ _ => Iff.rfl, rfl, rfl, rfl, ?_, ?_, fun _ => rfl,
      fun _ _ _ => .of_eq rfl⟩ hn.1 ?_
    · grind
    · grind
    · grind
  | @read t s u rest hrole hevents =>
    refine hc.quiet ⟨rfl, rfl, fun _ _ => Iff.rfl, rfl, rfl, rfl, fun _ _ => Iff.rfl, fun _ => id,
      ?_, ?_⟩ rfl ?_
    · grind
    · grind [Mailbox.Same]
    · grind [Note.party?]
  | close hrole hevents hnever =>
    refine hnil _ ⟨rfl, rfl, fun _ _ => Iff.rfl, rfl, rfl, rfl, ?_, ?_, fun _ => rfl,
      fun _ _ _ => .of_eq rfl⟩
    · grind
    · grind
  | sweep hrun =>
    rw [List.append_nil]
    exact hc.sweep
  | @number r w rest hrun hhand hcommands =>
    cases w with
    | none => exact hc.number_none hcommands
    | some w =>
      refine hc.number hn hrun hcommands ?_
      simp [numbered, Note.numbered?] at hlen
      simp [numbered]
      omega
  | cancel hrun hhand hcancels =>
    exact hc.quiet (.of_eq rfl rfl rfl rfl rfl rfl rfl) rfl (by rintro t ⟨⟩)
  | write hrun hhand => exact hnil _ (.of_eq rfl rfl rfl rfl rfl rfl rfl)
  | stop hrun => exact hc.halt
  | answer hrun hid hfind hwaiting => exact hc.answer hid hfind hwaiting
  | late hrun hid hfind hgone => exact hc.late hid hfind hgone
  | forgotten hrun hid hfind hmem =>
    exact hc.unclaimed hid hrun hfind (by simp) rfl rfl rfl rfl rfl rfl
  | pass hrun hnone => exact hc.pass hrun hnone
  | deliver hrun hfind hlistening =>
    refine hc.quiet ⟨rfl, rfl, fun _ _ => Iff.rfl, rfl, rfl, rfl, fun _ _ => Iff.rfl, fun _ => id,
      ?_, ?_⟩ rfl (by rintro t ⟨⟩)
    · grind
    · grind [Mailbox.Same]
  | unroute hrun hfind hlistening =>
    exact hc.quiet (.of_eq rfl rfl rfl rfl rfl rfl rfl) rfl (by rintro t ⟨⟩)
  | miss hrun hfind => exact hc.quiet (.of_eq rfl rfl rfl rfl rfl rfl rfl) rfl (by rintro t ⟨⟩)
  | @other f hrun hreply hevent =>
    refine hc.quiet (.of_eq rfl rfl rfl rfl rfl rfl rfl) ?_ (by rintro t ⟨⟩)
    cases f with
    | reply r => exact absurd rfl (hreply r)
    | _ => rfl

end Correlated

/-- No two pending requests have the same number. -/
lemma Correlated.find_of_mem {id : RequestId} {w : Waiter} (hc : Correlated τ h l)
    (hmem : (id, w) ∈ l.pending) : l.pending.find? id = some w := by
  obtain ⟨hnumber, hrouted, -⟩ := hc.pending id w hmem
  cases hfind : l.pending.find? id with
  | none => exact absurd hmem (Table.not_mem_of_find? hfind w)
  | some w' =>
    obtain ⟨hnumber', hrouted', -⟩ := hc.pending id w' (Table.mem_of_find? hfind)
    obtain ⟨t, routed⟩ := w
    obtain ⟨t', routed'⟩ := w'
    obtain rfl : t' = t := hc.apart t' t id hnumber' hnumber
    obtain rfl : routed' = routed := hrouted'.symm.trans hrouted
    rfl

lemma correlated_start : Correlated τ [] .start where
  apart := by rintro t u i ⟨⟩
  fresh := fun _ _ => ⟨rfl, rfl⟩
  once := List.nodup_nil
  queued := by rintro r w ⟨⟩
  pending := by rintro i w ⟨⟩
  abandoned := by rintro i ⟨⟩
  tracked := by rintro _ t i ⟨⟩
  caller := by rintro t x ⟨⟩
  waiting := by rintro t ⟨⟩

/-- Requests and replies stay together, wherever steps lead, until the numbers come round. -/
theorem correlated_of_steps (hs : Ledger.start.Steps τ h l)
    (hlen : (numbered h).length ≤ UInt64.size) : Correlated τ h l := by
  refine hs.invariant (P := fun h l => (numbered h).length ≤ UInt64.size → Correlated τ h l)
    (fun _ => correlated_start) ?_ hlen
  rintro h h' l l' hs hc hstep hlen
  exact (hc (numbered_length_of_append hlen)).step (numbered_of_steps hs) hlen hstep

/-- What holds at the start, and is kept by every step until the numbers come round, holds wherever
steps lead until then. -/
theorem Ledger.Steps.invariant_correlated {P : List Note → Ledger → Prop} (start : P [] .start)
    (step : ∀ {h h' l l'}, Ledger.start.Steps τ h l → (numbered h).length ≤ UInt64.size →
      Correlated τ h l → P h l → Step τ l h' l' → P (h ++ h') l')
    (hs : Ledger.start.Steps τ h l) (hlen : (numbered h).length ≤ UInt64.size) : P h l := by
  refine hs.invariant (P := fun h l => (numbered h).length ≤ UInt64.size → P h l)
    (fun _ => start) ?_ hlen
  intro h h' l l' hs hP hstep hlen
  have hlen' := numbered_length_of_append hlen
  exact step hs hlen' (correlated_of_steps hs hlen') (hP hlen') hstep

end GroundLink.Connection
