import GroundLink.Proofs.Connection.Correlation

/-!
# Calls

A call that has been opened has a route to its subscription for as long as the caller or the
consumer stays. When they leave it is cancelled, once; the one exception is a caller who gives up
with the reply at hand.
-/

namespace GroundLink.Connection

open Protocol

variable {τ : Nat} {h h' : List Note} {l l' : Ledger}

/-- How many cancels of a call are queued, or have got their numbers. -/
def Ledger.cancelCount (c : CallId) (h : List Note) (l : Ledger) : Nat :=
  l.cancels.count c + (cancelNumbers c h).length

/-- How the calls in a ledger stand to their stories. -/
structure Tended (h : List Note) (l : Ledger) : Prop where
  routed : ∀ c t, l.routes.find? c = some t → (story t h).opened = some c
  route : l.stopped = false → ∀ t c, (story t h).opened = some c → (story t h).ending = none →
    l.routes.find? c = some t ∧ (l.mailbox t).listening = true
  listening : l.stopped = false → ∀ t, (l.mailbox t).listening = true →
    (story t h).ending = none
  consumer : ∀ t s, l.role t = .consumer s → (story t h).opened = some s.call
    ∧ (story t h).ending = none
    ∧ (s.state = .subscribed ∨ s.state = .closed ∧ l.stopped = true)
  /-- Nobody leaves a request without a note. -/
  queued : ∀ r w, .send r (some w) ∈ l.commands → (story w.ticket h).ending = none →
    l.role w.ticket ≠ .none
  present : ∀ t, (story t h).number ≠ none → (story t h).ending = none → l.role t ≠ .none
  /-- Only calls that somebody has let go are cancelled, and not those that are left unread. -/
  unwanted : ∀ c, l.cancelCount c h ≠ 0 →
    ∃ t, (story t h).opened = some c ∧ (story t h).ending ≠ none
      ∧ (story t h).ending ≠ some .unread
  once : ∀ c, l.cancelCount c h ≤ 1
  cancelled : l.stopped = false → ∀ t c, (story t h).opened = some c →
    (story t h).ending ≠ none → (story t h).ending ≠ some .unread → l.cancelCount c h ≠ 0

lemma Ledger.resolving_routes_of_none {i : RequestId} {w : Waiter} {r : Reply}
    (hcall : Channel.opened? w r = none) : (l.resolving i w r).routes = l.routes := by
  rw [resolving, hcall]

lemma Ledger.resolving_routes_of_some {i : RequestId} {w : Waiter} {r : Reply} {c : CallId}
    (hcall : Channel.opened? w r = some c) :
    (l.resolving i w r).routes = l.routes.insert c w.ticket := by
  rw [resolving, hcall]

/-- What is noted of anything but a cancel changes the cancels of no call. -/
lemma cancelNumbers_of_none {n : Note} {c : CallId} (hn : n.cancels? c = none) :
    cancelNumbers c (h ++ [n]) = cancelNumbers c h := by
  rw [cancelNumbers_append]
  simp [cancelNumbers, hn]

lemma Story.opened_eq (s : Story) (t : Ticket) :
    s.opened = s.answer.bind (Channel.opened? ⟨t, s.routed⟩) := rfl

lemma Story.Same.opened {s s' : Story} (hs : s.Same s') : s'.opened = s.opened := by
  rw [opened_eq _ ⟨0⟩, opened_eq s ⟨0⟩, hs.answer, hs.routed]

lemma Story.opened_of_unanswered {s : Story} (hs : s.answer = none) : s.opened = none := by
  rw [opened, hs]
  rfl

namespace Tended

/-! ### Steps that leave those who want calls alone -/

/-- A call that is still wanted has not been cancelled. -/
lemma not_cancelled (ht : Tended h l) (hd : CallsDistinct h) {t : Ticket} {c : CallId}
    (hc : (story t h).opened = some c) (he : (story t h).ending = none) :
    l.cancelCount c h = 0 := by
  by_contra hcancel
  obtain ⟨u, hu, hend, -⟩ := ht.unwanted c hcancel
  obtain rfl := hd hc hu
  exact hend he

/-- A call whose caller has left the reply unread has not been cancelled. -/
lemma not_cancelled_of_unread (ht : Tended h l) (hd : CallsDistinct h) {t : Ticket} {c : CallId}
    (hc : (story t h).opened = some c) (he : (story t h).ending = some .unread) :
    l.cancelCount c h = 0 := by
  by_contra hcancel
  obtain ⟨u, hu, -, hunread⟩ := ht.unwanted c hcancel
  obtain rfl := hd hc hu
  exact hunread he

/-- Nobody comes or leaves, and a route is lost only where nobody listens or a cancel is queued. -/
lemma frame (ht : Tended h l) (hd : CallsDistinct h)
    (hopened : ∀ t, (story t (h ++ h')).opened = (story t h).opened)
    (hending : ∀ t, (story t (h ++ h')).ending = (story t h).ending)
    (hstopped : l.stopped = true → l'.stopped = true)
    (hqueued : ∀ r w, .send r (some w) ∈ l'.commands → (story w.ticket h).ending = none →
      l'.role w.ticket ≠ .none)
    (hpresent : ∀ t, (story t (h ++ h')).number ≠ none → (story t h).ending = none →
      l'.role t ≠ .none)
    (hconsumer : ∀ t s, l'.role t = .consumer s → l.role t = .consumer s
      ∨ (story t h).opened = some s.call ∧ (story t h).ending = none
        ∧ (s.state = .subscribed ∨ s.state = .closed ∧ l.stopped = true))
    (hlistening : ∀ t, (l'.mailbox t).listening = (l.mailbox t).listening
      ∨ (story t h).opened = none ∧ (story t h).ending = none)
    (hroutes : ∀ c t, l'.routes.find? c = some t → l.routes.find? c = some t)
    (hkept : l'.stopped = false → ∀ c t, l.routes.find? c = some t →
      (l.mailbox t).listening = true → c ∉ l.cancels → l'.routes.find? c = some t)
    (hle : ∀ c, l'.cancelCount c (h ++ h') ≤ l.cancelCount c h)
    (heq : l'.stopped = false → ∀ c, l'.cancelCount c (h ++ h') = l.cancelCount c h) :
    Tended (h ++ h') l' := by
  have hrunning : l'.stopped = false → l.stopped = false := by grind
  exact {
    routed := by
      intro c t hfind
      rw [hopened]
      exact ht.routed c t (hroutes c t hfind)
    route := by
      intro hrun t c
      rw [hopened, hending]
      intro hc he
      obtain ⟨hfind, hlist⟩ := ht.route (hrunning hrun) t c hc he
      -- A call that is wanted has no cancel queued, so the route that is lost is another one.
      have hnot : c ∉ l.cancels := by
        intro hmem
        have hpos := List.count_pos_iff.mpr hmem
        have hzero := ht.not_cancelled hd hc he
        rw [Ledger.cancelCount] at hzero
        omega
      refine ⟨hkept hrun c t hfind hlist hnot, ?_⟩
      rcases hlistening t with h | ⟨h, -⟩
      · rw [h, hlist]
      · rw [h] at hc
        cases hc
    listening := by
      intro hrun t hl
      rw [hending]
      rcases hlistening t with h | ⟨-, h⟩
      · exact ht.listening (hrunning hrun) t (h ▸ hl)
      · exact h
    consumer := by
      intro t s hs
      rw [hopened, hending]
      have hold : (story t h).opened = some s.call ∧ (story t h).ending = none
          ∧ (s.state = .subscribed ∨ s.state = .closed ∧ l.stopped = true) := by
        rcases hconsumer t s hs with hs | hs
        · exact ht.consumer t s hs
        · exact hs
      exact ⟨hold.1, hold.2.1, hold.2.2.imp_right fun h => ⟨h.1, hstopped h.2⟩⟩
    queued := by
      intro r w hw he
      rw [hending] at he
      exact hqueued r w hw he
    present := by
      intro t hn he
      rw [hending] at he
      exact hpresent t hn he
    unwanted := by
      intro c hc
      have hle := hle c
      obtain ⟨t, hopen, hend⟩ := ht.unwanted c (by omega)
      exact ⟨t, (hopened t).trans hopen, by rwa [hending]⟩
    once := fun c => Nat.le_trans (hle c) (ht.once c)
    cancelled := by
      intro hrun t c
      rw [hopened, hending, heq hrun]
      exact ht.cancelled (hrunning hrun) t c }

/-- A step without a note, a change of a route or a cancel. -/
lemma stay (ht : Tended h l) (hd : CallsDistinct h)
    (hqueued : ∀ r w, .send r (some w) ∈ l'.commands → (story w.ticket h).ending = none →
      l'.role w.ticket ≠ .none)
    (hpresent : ∀ t, (story t h).number ≠ none → (story t h).ending = none → l'.role t ≠ .none)
    (hconsumer : ∀ t s, l'.role t = .consumer s → l.role t = .consumer s
      ∨ (story t h).opened = some s.call ∧ (story t h).ending = none
        ∧ (s.state = .subscribed ∨ s.state = .closed ∧ l.stopped = true))
    (hlistening : ∀ t, (l'.mailbox t).listening = (l.mailbox t).listening
      ∨ (story t h).opened = none ∧ (story t h).ending = none)
    (hstopped : l'.stopped = l.stopped) (hroutes : l'.routes = l.routes)
    (hcancels : l'.cancels = l.cancels) : Tended h l' := by
  have hstory : ∀ t, story t (h ++ []) = story t h := fun t => by rw [List.append_nil]
  have hcount : ∀ c, l'.cancelCount c (h ++ []) = l.cancelCount c h := by
    intro c
    rw [List.append_nil, Ledger.cancelCount, hcancels, Ledger.cancelCount]
  rw [← List.append_nil h]
  refine ht.frame hd (fun t => by rw [hstory]) (fun t => by rw [hstory]) hstopped.trans hqueued ?_
    hconsumer hlistening ?_ ?_ (fun c => Nat.le_of_eq (hcount c)) fun _ => hcount
  · intro t
    rw [hstory]
    exact hpresent t
  · intro c t hfind
    rwa [← hroutes]
  · intro _ c t hfind _ _
    rwa [hroutes]

/-- A step that touches no call, and nobody who wants one. -/
lemma quiet (ht : Tended h l) (hd : CallsDistinct h)
    (hsame : ∀ t, (story t h).Same (story t (h ++ h')))
    (hending : ∀ t, (story t (h ++ h')).ending = (story t h).ending)
    (hcancelled : ∀ c, cancelNumbers c (h ++ h') = cancelNumbers c h)
    (hcommands : ∀ r w, .send r (some w) ∈ l'.commands → .send r (some w) ∈ l.commands)
    (hrole : l'.role = l.role) (hstopped : l'.stopped = l.stopped)
    (hlistening : ∀ t, (l'.mailbox t).listening = (l.mailbox t).listening)
    (hroutes : l'.routes = l.routes) (hcancels : l'.cancels = l.cancels) :
    Tended (h ++ h') l' := by
  have hcount : ∀ c, l'.cancelCount c (h ++ h') = l.cancelCount c h := by
    intro c
    rw [Ledger.cancelCount, hcancelled, hcancels, Ledger.cancelCount]
  refine ht.frame hd (fun t => (hsame t).opened) hending (hstopped.trans) ?_ ?_ ?_
    (fun t => .inl (hlistening t)) ?_ ?_ (fun c => Nat.le_of_eq (hcount c)) fun _ => hcount
  · intro r w hw
    rw [hrole]
    exact ht.queued r w (hcommands r w hw)
  · intro t
    rw [(hsame t).number, hrole]
    exact ht.present t
  · intro t s hs
    exact .inl (hrole ▸ hs)
  · intro c t hfind
    rwa [← hroutes]
  · intro _ c t hfind _ _
    rwa [hroutes]

/-- The dispatcher handles what is not a reply. -/
lemma story_handled {f : Frame} (hf : ∀ r, f ≠ .reply r) (t : Ticket) :
    (story t h).Same (story t (h ++ [.handled f]))
      ∧ (story t (h ++ [.handled f])).ending = (story t h).ending := by
  rw [story_append_singleton]
  refine ⟨Story.same_note ?_, Story.ending_note (by rintro ⟨⟩)⟩
  cases f with
  | reply r => exact absurd rfl (hf r)
  | _ => rfl

/-! ### Leaving -/

/-- A caller or a consumer leaves, and the call that it leaves is cancelled. -/
lemma leave (ht : Tended h l) (hd : CallsDistinct h) {t : Ticket} {n : Note} {more : List CallId}
    (hn : n.asks = false) (hparty : n.party? = some t) (hbefore : (story t h).ending = none)
    (hend : (story t (h ++ [n])).ending ≠ none)
    (hroutes : l'.routes = l.routes) (hstopped : l'.stopped = l.stopped)
    (hcommands : l'.commands = l.commands)
    (hrole : ∀ u, l'.role u = if u = t then .none else l.role u)
    (hmail : ∀ u, u ≠ t → (l'.mailbox u).listening = (l.mailbox u).listening)
    (hleft : l.stopped = false → (l'.mailbox t).listening = false)
    (hcancels : l'.cancels = l.cancels ++ more)
    (hmore : more = [] ∨ ∃ c, more = [c] ∧ (story t h).opened = some c
      ∧ (story t (h ++ [n])).ending ≠ some .unread)
    (hgone : l.stopped = false → (story t h).opened ≠ none →
      (story t (h ++ [n])).ending ≠ some .unread → more ≠ []) :
    Tended (h ++ [n]) l' := by
  have hsame : ∀ u, (story u h).Same (story u (h ++ [n])) := by
    intro u
    rw [story_append_singleton]
    exact Story.same_note hn
  have hopened := fun u => (hsame u).opened
  have hnumber := fun u => (hsame u).number
  have hother : ∀ u, u ≠ t → (story u (h ++ [n])).ending = (story u h).ending := by
    intro u hu
    rw [story_append_singleton, Story.note_of_party hn hparty hu]
  have hcount : ∀ c, l'.cancelCount c (h ++ [n]) = l.cancelCount c h + more.count c := by
    intro c
    have hnone : n.cancels? c = none := by cases n <;> first | rfl | cases hparty
    rw [Ledger.cancelCount, hcancels, cancelNumbers_of_none hnone, List.count_append,
      Ledger.cancelCount]
    omega
  -- The call has been wanted until now, so this is its first cancel.
  have hnew : ∀ c, more.count c ≠ 0 →
      (story t h).opened = some c ∧ (story t (h ++ [n])).ending ≠ some .unread
        ∧ l.cancelCount c h = 0 ∧ more.count c = 1 := by
    intro c hc
    rcases hmore with hnil | ⟨c', hone, hopen, hread⟩
    · rw [hnil] at hc
      exact absurd List.count_nil hc
    · obtain rfl : c = c' := by
        rw [hone] at hc
        exact List.mem_singleton.mp (List.count_pos_iff.mp (Nat.pos_of_ne_zero hc))
      exact ⟨hopen, hread, ht.not_cancelled hd hopen hbefore,
        by rw [hone, List.count_singleton_self]⟩
  exact {
    routed := by grind [ht.routed]
    route := by
      intro hrun u c hu he
      have hut : u ≠ t := by
        rintro rfl
        exact hend he
      rw [hroutes, hmail u hut]
      rw [hopened] at hu
      rw [hother u hut] at he
      exact ht.route (hstopped ▸ hrun) u c hu he
    listening := by
      intro hrun u hl
      have hut : u ≠ t := by
        rintro rfl
        rw [hleft (hstopped ▸ hrun)] at hl
        cases hl
      rw [hother u hut]
      exact ht.listening (hstopped ▸ hrun) u (hmail u hut ▸ hl)
    consumer := by
      intro u s hu
      have hut : u ≠ t := by
        rintro rfl
        simp [hrole] at hu
      rw [hrole, if_neg hut] at hu
      rw [hopened, hother u hut, hstopped]
      exact ht.consumer u s hu
    queued := by grind [ht.queued]
    present := by grind [ht.present]
    unwanted := by
      intro c hc
      by_cases hmc : more.count c = 0
      · rw [hcount, hmc] at hc
        obtain ⟨u, hu, he⟩ := ht.unwanted c hc
        have hut : u ≠ t := by
          rintro rfl
          exact he.1 hbefore
        rw [← hother u hut] at he
        exact ⟨u, (hopened u).trans hu, he⟩
      · obtain ⟨hopen, hread, -⟩ := hnew c hmc
        exact ⟨t, (hopened t).trans hopen, hend, hread⟩
    once := by
      intro c
      rw [hcount]
      have hone := ht.once c
      by_cases hmc : more.count c = 0
      · omega
      · obtain ⟨-, -, hzero, hmc⟩ := hnew c hmc
        omega
    cancelled := by
      intro hrun u c hu he hread
      rw [hopened] at hu
      rw [hcount]
      by_cases hut : u = t
      · subst hut
        have hne := hgone (hstopped ▸ hrun) (by simp [hu]) hread
        obtain ⟨c', hone, hopen, -⟩ := hmore.resolve_left hne
        obtain rfl := Option.some.inj (hu.symm.trans hopen)
        rw [hone, List.count_singleton_self]
        omega
      · rw [hother u hut] at he hread
        have := ht.cancelled (hstopped ▸ hrun) u c hu he hread
        omega }

/-- A caller leaves that has no call, or that does not know of it. -/
lemma leave_call (ht : Tended h l) (hd : CallsDistinct h) {t : Ticket} {n : Note} {m : Mailbox}
    (hn : n.asks = false) (hparty : n.party? = some t) (hbefore : (story t h).ending = none)
    (hend : (story t (h ++ [n])).ending ≠ none) (hm : m.listening = false)
    (hnone : (story t h).opened ≠ none → (story t (h ++ [n])).ending = some .unread) :
    Tended (h ++ [n]) ((l.setMailbox t m).setRole t .none) :=
  ht.leave hd hn hparty hbefore hend rfl rfl rfl (by grind) (by grind) (by grind)
    (List.append_nil _).symm (.inl rfl) fun _ hopen hread => absurd (hnone hopen) hread

/-- A caller's call is the one that the reply at hand opens. -/
lemma opened_of_awaits {t : Ticket} {x : Exchange} (ha : Awaits τ h l t x) :
    (story t h).opened = (l.mailbox t).reply.bind (Channel.opened? ⟨t, x.routed⟩) := by
  rw [Story.opened_eq _ t, ha.reply]
  cases hanswer : (story t h).answer with
  | none => rfl
  | some r => rw [ha.routed (story_answered t h (hanswer ▸ Option.some_ne_none r))]

/-- A caller gets a result that leaves it without a call. -/
lemma «return» (ht : Tended h l) (hd : CallsDistinct h) {t : Ticket} {x : Exchange}
    {result : Except Client.Error Outcome} {m : Mailbox} (ha : Awaits τ h l t x)
    (hkeeps : keeps result = false) (hm : m.listening = false)
    (hopen : (l.mailbox t).reply.bind (Channel.opened? ⟨t, x.routed⟩) = none) :
    Tended (h ++ [.returned t result]) ((l.setMailbox t m).setRole t .none) := by
  refine ht.leave_call hd rfl rfl ha.ending ?_ hm ?_
  · rw [story_append_singleton]
    simp [Story.note, hkeeps]
  · rw [opened_of_awaits ha, hopen]
    exact fun hne => absurd rfl hne

/-- A caller gives up. -/
lemma abandon (ht : Tended h l) (hd : CallsDistinct h) {t : Ticket} {x : Exchange} {m : Mailbox}
    (ha : Awaits τ h l t x) (hm : m.listening = false) :
    Tended (h ++ [.abandoned t]) ((l.setMailbox t m).setRole t .none) := by
  have hend : (story t (h ++ [.abandoned t])).ending
      = some (if (story t h).answer.isSome then .unread else .abandoned) := by
    rw [story_append_singleton]
    simp [Story.note]
  refine ht.leave_call hd rfl rfl ha.ending (hend ▸ Option.some_ne_none _) hm ?_
  intro hopen
  rw [hend]
  cases hanswer : (story t h).answer with
  | none => exact absurd (Story.opened_of_unanswered hanswer) hopen
  | some r => rfl

/-- The notes of a consumer that leaves. -/
lemma story_left {t : Ticket} {n : Note} {c : CallId} (hopen : (story t h).opened = some c)
    (hnote : n = .released t ∨ ∃ e, n = .returned t (.error e)) :
    n.asks = false ∧ n.party? = some t ∧ (story t (h ++ [n])).ending = some .released := by
  rw [story_append_singleton]
  obtain rfl | ⟨e, rfl⟩ := hnote
  · exact ⟨rfl, rfl, by simp [Story.note]⟩
  · exact ⟨rfl, rfl, by simp [Story.note, keeps, hopen]⟩

/-- A consumer lets its call go. -/
lemma release (ht : Tended h l) (hd : CallsDistinct h) {t : Ticket} {s : Subscription} {n : Note}
    (hrole : l.role t = .consumer s)
    (hnote : n = .released t ∨ ∃ e, n = .returned t (.error e)) :
    Tended (h ++ [n])
      ({ l with cancels := if l.stopped then l.cancels else l.cancels ++ [s.call] }.setMailbox t
        (l.mailbox t).closed |>.setRole t .none) := by
  obtain ⟨hopen, hbefore, -⟩ := ht.consumer t s hrole
  obtain ⟨hn, hparty, hleft⟩ := story_left hopen hnote
  have hlistening : (l.mailbox t).closed.listening = false := rfl
  by_cases hstop : l.stopped = true
  · rw [if_pos hstop]
    refine ht.leave hd hn hparty hbefore (hleft ▸ Option.some_ne_none _) rfl rfl rfl
      (by grind) (by grind) (by grind) (List.append_nil _).symm (.inl rfl) ?_
    rw [hstop]
    rintro ⟨⟩
  · rw [if_neg hstop]
    exact ht.leave hd hn hparty hbefore (hleft ▸ Option.some_ne_none _) rfl rfl rfl
      (by grind) (by grind) (by grind) rfl (.inr ⟨s.call, rfl, hopen, by rw [hleft]; rintro ⟨⟩⟩)
      fun _ _ _ => List.cons_ne_nil _ _

/-- A consumer lets go what has ended by itself. -/
lemma drop (ht : Tended h l) (hd : CallsDistinct h) {t : Ticket} {s : Subscription} {n : Note}
    (hrole : l.role t = .consumer s) (hstate : s.state ≠ .subscribed)
    (hnote : n = .released t ∨ ∃ e, n = .returned t (.error e)) :
    Tended (h ++ [n]) (l.setRole t .none) := by
  obtain ⟨hopen, hbefore, hclosed⟩ := ht.consumer t s hrole
  obtain ⟨hn, hparty, hleft⟩ := story_left hopen hnote
  have hstop : l.stopped = true := (hclosed.resolve_left hstate).2
  refine ht.leave hd hn hparty hbefore (hleft ▸ Option.some_ne_none _) rfl rfl rfl (by grind)
    (fun _ _ => rfl) ?_ (List.append_nil _).symm (.inl rfl) ?_
  all_goals
    intro hrun
    rw [hstop] at hrun
    cases hrun

/-! ### Replies -/

/-- A request without an answer that nobody waits for has been left. -/
lemma left_of_unanswered (ht : Tended h l) (hc : Correlated τ h l) {t : Ticket}
    (hnumber : (story t h).number ≠ none) (hanswer : (story t h).answer = none)
    (hwaiting : (l.mailbox t).waiting = false) : (story t h).ending ≠ none := by
  intro hend
  cases hrole : l.role t with
  | none => exact ht.present t hnumber hend hrole
  | caller x =>
    rw [(hc.caller t x hrole).waiting] at hwaiting
    cases hwaiting
  | consumer s =>
    have hopen := (ht.consumer t s hrole).1
    rw [Story.opened_of_unanswered hanswer] at hopen
    cases hopen

/-- What a reply does to the story of the request that it answers, and to no other. -/
structure Answered (t : Ticket) (r : Reply) (h h' : List Note) : Prop where
  unanswered : (story t h).answer = none
  numbered : (story t h).number ≠ none
  opened : (story t (h ++ h')).opened = Channel.opened? ⟨t, (story t h).routed⟩ r
  other : ∀ u, u ≠ t → story u (h ++ h') = story u h
  number : ∀ u, (story u (h ++ h')).number = (story u h).number
  ending : ∀ u, (story u (h ++ h')).ending = (story u h).ending
  cancelled : ∀ c, cancelNumbers c (h ++ h') = cancelNumbers c h

lemma answered_of_reply {t : Ticket} {r : Reply} {id : RequestId}
    (hapart : ∀ t u i, (story t h).number = some i → (story u h).number = some i → t = u)
    (hid : r.request = some id) (hnumber : (story t h).number = some id)
    (hanswer : (story t h).answer = none) : Answered t r h [.handled (.reply r)] := by
  have hstory := fun u => Correlated.story_reply (h := h) (t := u) hid
  exact {
    unanswered := hanswer
    numbered := by simp [hnumber]
    opened := by
      rw [hstory, if_pos ⟨hnumber, hanswer⟩, Story.opened_eq _ t]
      rfl
    other := by
      intro u hu
      rw [hstory, if_neg]
      exact fun h => hu (hapart u t id h.1 hnumber)
    number := by
      intro u
      rw [hstory]
      split <;> rfl
    ending := by
      intro u
      rw [hstory]
      split <;> rfl
    cancelled := fun c => cancelNumbers_of_none rfl }

/-- A caller finds in its mailbox the reply that opens its call. -/
lemma answer (ht : Tended h l) (hd : CallsDistinct (h ++ h')) {w : Waiter} {r : Reply}
    {id : RequestId} {m : Mailbox} (ha : Answered w.ticket r h h')
    (hrouted : (story w.ticket h).routed = w.routed) (hend : (story w.ticket h).ending = none)
    (hlistening : w.routed = true → (l.mailbox w.ticket).listening = true)
    (hm : m.listening = (l.mailbox w.ticket).listening) :
    Tended (h ++ h') ((l.resolving id w r).setMailbox w.ticket m) := by
  obtain ⟨hanswer, hnumbered, hopened, hother, hnumber, hending, hcancelled⟩ := ha
  rw [hrouted] at hopened
  have hnone := Story.opened_of_unanswered hanswer
  have hmail : ∀ u, (((l.resolving id w r).setMailbox w.ticket m).mailbox u).listening
      = (l.mailbox u).listening := by
    intro u
    rw [Ledger.setMailbox_mailbox]
    split
    case isTrue hu => rw [hu, hm]
    case isFalse => rfl
  have hcount : ∀ c, ((l.resolving id w r).setMailbox w.ticket m).cancelCount c (h ++ h')
      = l.cancelCount c h := by
    intro c
    rw [Ledger.cancelCount, hcancelled]
    rfl
  exact {
    routed := by
      intro c t hfind
      rw [Ledger.setMailbox_routes] at hfind
      have hold : l.routes.find? c = some t → (story t (h ++ h')).opened = some c := fun hfind =>
        story_opened_append (ht.routed c t hfind)
      cases hcall : Channel.opened? w r with
      | none => exact hold (Ledger.resolving_routes_of_none hcall ▸ hfind)
      | some c' =>
        rw [Ledger.resolving_routes_of_some hcall] at hfind
        by_cases hc : c' = c
        · subst hc
          rw [Table.find?_insert_self] at hfind
          rw [← Option.some.inj hfind]
          exact hopened.trans hcall
        · rw [Table.find?_insert_of_ne hc] at hfind
          exact hold hfind
    route := by
      intro hrun t c hc he
      rw [Ledger.setMailbox_routes, hmail]
      rw [hending] at he
      by_cases htw : t = w.ticket
      · subst htw
        rw [hopened] at hc
        rw [Ledger.resolving_routes_of_some hc]
        refine ⟨Table.find?_insert_self .., hlistening ?_⟩
        rw [Channel.opened?] at hc
        grind
      · have hc' := hc
        rw [hother t htw] at hc
        obtain ⟨hfind, hlist⟩ := ht.route hrun t c hc he
        refine ⟨?_, hlist⟩
        -- No two requests open the same call, so the new route does not replace another one.
        cases hcall : Channel.opened? w r with
        | none => rw [Ledger.resolving_routes_of_none hcall, hfind]
        | some c' =>
          have hne : c' ≠ c := by
            rintro rfl
            exact htw (hd hc' (hopened.trans hcall))
          rw [Ledger.resolving_routes_of_some hcall, Table.find?_insert_of_ne hne, hfind]
    listening := by
      intro hrun t hl
      rw [hmail] at hl
      rw [hending]
      exact ht.listening hrun t hl
    consumer := by
      intro t s hs
      obtain ⟨hopen, he, hstate⟩ := ht.consumer t s hs
      exact ⟨story_opened_append hopen, (hending t).trans he, hstate⟩
    queued := by
      intro r' w' hw he
      rw [hending] at he
      exact ht.queued r' w' hw he
    present := by
      intro t hn he
      rw [hnumber] at hn
      rw [hending] at he
      exact ht.present t hn he
    unwanted := by
      intro c hc
      rw [hcount] at hc
      obtain ⟨t, hopen, he⟩ := ht.unwanted c hc
      rw [← hending] at he
      exact ⟨t, story_opened_append hopen, he⟩
    once := by
      intro c
      rw [hcount]
      exact ht.once c
    cancelled := by
      intro hrun t c hc he hread
      rw [hending] at he hread
      have htw : t ≠ w.ticket := by
        rintro rfl
        exact he hend
      rw [hother t htw] at hc
      rw [hcount]
      exact ht.cancelled hrun t c hc he hread }

/-- A call is opened that nobody waits for any more, and is cancelled at once. -/
lemma stray (ht : Tended h l) (hd : CallsDistinct (h ++ h')) {t : Ticket} {r : Reply}
    (ha : Answered t r h h') (hend : (story t h).ending ≠ none)
    (hroutes : l'.routes = l.routes ∨ ∃ c, (story t (h ++ h')).opened = some c
      ∧ l'.routes = l.routes.insert c t)
    (hcancels : l'.cancels = (story t (h ++ h')).opened.toList ++ l.cancels)
    (hcommands : l'.commands = l.commands) (hstopped : l'.stopped = l.stopped)
    (hrole : l'.role = l.role) (hmailbox : l'.mailbox = l.mailbox) : Tended (h ++ h') l' := by
  obtain ⟨hanswer, hnumbered, hopened, hother, hnumber, hending, hcancelled⟩ := ha
  have hnone := Story.opened_of_unanswered hanswer
  have hcount : ∀ c, l'.cancelCount c (h ++ h')
      = l.cancelCount c h + if (story t (h ++ h')).opened = some c then 1 else 0 := by
    intro c
    rw [Ledger.cancelCount, hcancels, hcancelled, List.count_append, Ledger.cancelCount]
    cases (story t (h ++ h')).opened with
    | none => simp
    | some c' =>
      simp only [Option.toList_some, List.count_singleton, beq_iff_eq, Option.some.injEq]
      omega
  -- A cancelled call has been opened before, and this one is opened only now.
  have hnew : ∀ c, (story t (h ++ h')).opened = some c → l.cancelCount c h = 0 := by
    intro c hc
    by_contra hcancel
    obtain ⟨u, hu, -⟩ := ht.unwanted c hcancel
    obtain rfl := hd (story_opened_append hu) hc
    rw [hnone] at hu
    cases hu
  exact {
    routed := by
      intro c u hfind
      have hold : l.routes.find? c = some u → (story u (h ++ h')).opened = some c := fun hfind =>
        story_opened_append (ht.routed c u hfind)
      rcases hroutes with hroutes | ⟨c', hc', hroutes⟩
      · exact hold (hroutes ▸ hfind)
      · rw [hroutes] at hfind
        by_cases hc : c' = c
        · subst hc
          rw [Table.find?_insert_self] at hfind
          rw [← Option.some.inj hfind]
          exact hc'
        · rw [Table.find?_insert_of_ne hc] at hfind
          exact hold hfind
    route := by
      intro hrun u c hc he
      rw [hending] at he
      have hut : u ≠ t := by
        rintro rfl
        exact hend he
      have hold : (story u h).opened = some c := by rwa [hother u hut] at hc
      obtain ⟨hfind, hlist⟩ := ht.route (hstopped ▸ hrun) u c hold he
      refine ⟨?_, hmailbox ▸ hlist⟩
      rcases hroutes with hroutes | ⟨c', hc', hroutes⟩
      · rw [hroutes, hfind]
      · have hne : c' ≠ c := by
          rintro rfl
          exact hut (hd hc hc')
        rw [hroutes, Table.find?_insert_of_ne hne, hfind]
    listening := by
      intro hrun u hl
      rw [hending]
      exact ht.listening (hstopped ▸ hrun) u (hmailbox ▸ hl)
    consumer := by
      intro u s hs
      rw [hrole] at hs
      obtain ⟨hopen, he, hstate⟩ := ht.consumer u s hs
      exact ⟨story_opened_append hopen, (hending u).trans he, hstopped ▸ hstate⟩
    queued := by
      intro r' w' hw he
      rw [hcommands] at hw
      rw [hending] at he
      exact hrole ▸ ht.queued r' w' hw he
    present := by
      intro u hn he
      rw [hnumber] at hn
      rw [hending] at he
      exact hrole ▸ ht.present u hn he
    unwanted := by
      intro c hc
      by_cases hopen : (story t (h ++ h')).opened = some c
      · have hread : (story t h).ending ≠ some .unread := fun he => story_unread t h he hanswer
        rw [← hending] at hend hread
        exact ⟨t, hopen, hend, hread⟩
      · rw [hcount, if_neg hopen] at hc
        obtain ⟨u, hu, he⟩ := ht.unwanted c hc
        rw [← hending] at he
        exact ⟨u, story_opened_append hu, he⟩
    once := by
      intro c
      rw [hcount]
      split
      case isTrue hopen => exact Nat.le_of_eq (by rw [hnew c hopen])
      case isFalse => exact ht.once c
    cancelled := by
      intro hrun u c hc he hread
      rw [hending] at he hread
      rw [hcount]
      by_cases hut : u = t
      · subst hut
        rw [if_pos hc]
        omega
      · rw [hother u hut] at hc
        have := ht.cancelled (hstopped ▸ hrun) u c hc he hread
        omega }

/-! ### Beginnings -/

/-- A caller comes with a new request. -/
lemma enter (ht : Tended h l) (hc : Correlated τ h l) (hd : CallsDistinct h) {x : Exchange}
    (hx : x.ticket.val = l.nextTicket) :
    Tended h
      ({ l with nextTicket := l.nextTicket + 1 }.setMailbox x.ticket (.start x.routed)
        |>.setRole x.ticket (.caller x)) := by
  obtain ⟨hblank, -⟩ := hc.fresh x.ticket (Nat.le_of_eq hx.symm)
  refine ht.stay hd ?_ ?_ ?_ ?_ rfl rfl rfl
  · grind [ht.queued]
  · grind [ht.present]
  · grind
  · intro t
    by_cases htx : t = x.ticket
    · subst htx
      rw [hblank]
      exact .inr ⟨rfl, rfl⟩
    · left
      rw [Ledger.setRole_mailbox, Ledger.setMailbox_mailbox, if_neg htx]

/-- A ticket is given out for something else. -/
lemma ticket (ht : Tended h l) (hc : Correlated τ h l) (hd : CallsDistinct h) :
    Tended h ({ l with nextTicket := l.nextTicket + 1 }.setRole ⟨l.nextTicket⟩ .none) := by
  obtain ⟨hblank, -⟩ := hc.fresh ⟨l.nextTicket⟩ (Nat.le_refl _)
  refine ht.stay hd ?_ ?_ ?_ (fun t => .inl rfl) rfl rfl rfl
  · intro r w hw he
    have hold := (hc.queued r w hw).2.1
    grind [ht.queued]
  · intro t hn he
    have hne : t ≠ ⟨l.nextTicket⟩ := by
      rintro rfl
      simp [hblank, Story.blank] at hn
    grind [ht.present]
  · grind

/-- A request is queued. -/
lemma queue (ht : Tended h l) (hd : CallsDistinct h) {t : Ticket} {x : Exchange} {now : Nat}
    {r : Role} (hx : x.ticket = t) (hr : ∃ y, r = .caller y) :
    Tended (h ++ [.queued t now])
      ({ l with commands := l.commands ++ [x.command] }.setRole t r) := by
  obtain ⟨y, rfl⟩ := hr
  have hstory : ∀ u, story u (h ++ [.queued t now])
      = if t = u then { story u h with queuedAt := some now } else story u h := by
    intro u
    rw [story_append_singleton]
    rfl
  have hcount : ∀ c, ({ l with commands := l.commands ++ [x.command] }.setRole t
      (.caller y)).cancelCount c (h ++ [Note.queued t now]) = l.cancelCount c h := by
    intro c
    rw [Ledger.cancelCount, cancelNumbers_of_none rfl]
    rfl
  refine ht.frame hd ?_ ?_ id ?_ ?_ ?_ (fun u => .inl rfl) (fun _ _ => id)
    (fun _ _ _ hfind _ _ => hfind) (fun c => Nat.le_of_eq (hcount c)) fun _ => hcount
  · intro u
    rw [hstory]
    split <;> rfl
  · intro u
    rw [hstory]
    split <;> rfl
  · intro r w hw he
    rw [Ledger.setRole_role]
    split
    · rintro ⟨⟩
    · rw [Ledger.setRole_commands, List.mem_append, List.mem_singleton] at hw
      rcases hw with hw | hw
      · exact ht.queued r w hw he
      · grind [Exchange.command]
  · intro u hn he
    have hnumber : (story u h).number ≠ none := by
      rw [hstory] at hn
      split at hn <;> exact hn
    grind [ht.present]
  · grind

/-- A request gets its number. -/
lemma number (ht : Tended h l) (hc : Correlated τ h l) (hd : CallsDistinct h) {r : Request}
    {w : Option Waiter} {rest : List Command} (hcommands : l.commands = .send r w :: rest) :
    Tended (h ++ [.sent ⟨l.nextId, r⟩ w]) (l.numbering r w rest) := by
  have hcount : ∀ c, (l.numbering r w rest).cancelCount c (h ++ [.sent ⟨l.nextId, r⟩ w])
      = l.cancelCount c h := by
    intro c
    rw [Ledger.cancelCount, cancelNumbers_of_none rfl]
    rfl
  have hstory : ∀ u, (∃ w', w = some w' ∧ w'.ticket = u ∧ (story u h).answer = none)
      ∨ story u (h ++ [.sent ⟨l.nextId, r⟩ w]) = story u h := by
    intro u
    rw [story_append_singleton]
    cases w with
    | none => exact .inr rfl
    | some w =>
      have hqueued := (hc.queued r w (by rw [hcommands]; exact List.mem_cons_self)).1
      have hanswered := story_answered w.ticket h
      by_cases hu : w.ticket = u
      · subst hu
        refine .inl ⟨w, rfl, rfl, ?_⟩
        by_contra hanswer
        exact hanswered hanswer hqueued
      · exact .inr (if_neg fun hand => hu hand.1)
  have hanswer : ∀ u, (story u (h ++ [.sent ⟨l.nextId, r⟩ w])).answer = (story u h).answer := by
    intro u
    rw [story_append_singleton]
    cases w with
    | none => rfl
    | some w =>
      rw [Story.note]
      split <;> rfl
  refine ht.frame hd ?_ ?_ id ?_ ?_ (fun _ _ => .inl) (fun u => .inl rfl) (fun _ _ => id)
    (fun _ _ _ hfind _ _ => hfind) (fun c => Nat.le_of_eq (hcount c)) fun _ => hcount
  · intro u
    rcases hstory u with ⟨w', rfl, hw, hnone⟩ | hsame
    · rw [Story.opened_of_unanswered hnone, Story.opened_of_unanswered]
      rw [hanswer, hnone]
    · rw [hsame]
  · intro u
    rw [story_append_singleton]
    exact Story.ending_note (by rintro ⟨⟩)
  · intro r' w' hw
    exact ht.queued r' w' (by rw [hcommands]; exact List.mem_cons_of_mem _ hw)
  · intro u hn he
    rcases hstory u with ⟨w', rfl, rfl, -⟩ | hsame
    · exact ht.queued r w' (by rw [hcommands]; exact List.mem_cons_self) he
    · rw [hsame] at hn
      exact ht.present u hn he

/-- A caller becomes the consumer of its call. -/
lemma «open» (ht : Tended h l) (hc : Correlated τ h l) (hd : CallsDistinct h) {t : Ticket}
    {x : Exchange} {r : Reply} {c : CallId} (topic : Topic) (hrole : l.role t = .caller x)
    (hrouted : x.routed = true) (hreply : (l.mailbox t).reply = some r)
    (hrejection : r.rejection = none) (hcall : r.call = some c) :
    Tended h
      ((l.setMailbox t (l.mailbox t).answered).setRole t (.consumer (.opened c topic t))) := by
  have ha := hc.caller t x hrole
  have hanswer : (story t h).answer = some r := ha.reply.symm.trans hreply
  have hnumber := story_answered t h (by simp [hanswer])
  have hopen : (story t h).opened = some c := by
    rw [Story.opened, hanswer, ha.routed hnumber, hrouted, Option.bind_some, hrejection]
    exact hcall
  refine ht.stay hd ?_ ?_ ?_ ?_ rfl rfl rfl
  · grind [ht.queued]
  · grind [ht.present]
  · intro u s hs
    by_cases hut : u = t
    · subst hut
      obtain rfl : .opened c topic u = s := by
        have := (Function.update_self ..).symm.trans hs
        injection this
      exact .inr ⟨hopen, ha.ending, .inl rfl⟩
    · exact .inl ((Function.update_of_ne hut ..).symm.trans hs)
  · intro u
    left
    rw [Ledger.setRole_mailbox, Ledger.setMailbox_mailbox]
    split
    case isTrue hu => rw [hu, Mailbox.answered]
    case isFalse => rfl

/-- A consumer finds the end only when the dispatcher has stopped. -/
lemma close (ht : Tended h l) (hd : CallsDistinct h) {t : Ticket} {s : Subscription}
    (hrole : l.role t = .consumer s) (hnever : l.mayDeliver t = false) :
    Tended h (l.setRole t (.consumer { s with state := .closed })) := by
  obtain ⟨hopen, hend, -⟩ := ht.consumer t s hrole
  -- As long as the dispatcher runs, the call has a route, and events may come.
  have hstop : l.stopped = true := by
    by_contra hrun
    have hfind := (ht.route (eq_false_of_ne_true hrun) t s.call hopen hend).1
    have hmay : l.mayDeliver t = true := by
      rw [Ledger.mayDeliver, Bool.or_eq_true]
      exact .inr (List.any_eq_true.mpr ⟨_, Table.mem_of_find? hfind, by simp⟩)
    rw [hnever] at hmay
    cases hmay
  refine ht.stay hd ?_ ?_ ?_ (fun _ => .inl rfl) rfl rfl rfl
  · grind [ht.queued]
  · grind [ht.present]
  · intro u s' hs
    by_cases hut : u = t
    · subst hut
      obtain rfl : { s with state := .closed } = s' := by
        have := (Function.update_self ..).symm.trans hs
        injection this
      exact .inr ⟨hopen, hend, .inr ⟨rfl, hstop⟩⟩
    · exact .inl ((Function.update_of_ne hut ..).symm.trans hs)

/-! ### Cancelling and losing routes -/

/-- A queued cancel gets its number. -/
lemma cancel (ht : Tended h l) (hd : CallsDistinct h) {c : CallId} {rest : List CallId}
    (hcancels : l.cancels = c :: rest) :
    Tended (h ++ [.cancelled l.nextId c]) (l.cancelling c rest) := by
  have hstory : ∀ t, story t (h ++ [.cancelled l.nextId c]) = story t h := fun t =>
    story_append_singleton ..
  have hcount : ∀ c', (l.cancelling c rest).cancelCount c' (h ++ [.cancelled l.nextId c])
      = l.cancelCount c' h := by
    intro c'
    have hrest : (l.cancelling c rest).cancels = rest := rfl
    rw [Ledger.cancelCount, Ledger.cancelCount, hrest, hcancels, cancelNumbers_append,
      List.count_cons, List.length_append]
    by_cases hc : c = c'
    · simp [cancelNumbers, Note.cancels?, hc]
      omega
    · simp [cancelNumbers, Note.cancels?, hc]
  refine ht.frame hd (fun t => by rw [hstory]) (fun t => by rw [hstory]) id ht.queued ?_
    (fun _ _ => .inl) (fun _ => .inl rfl) ?_ ?_ (fun c => Nat.le_of_eq (hcount c)) fun _ => hcount
  · intro t
    rw [hstory]
    exact ht.present t
  · intro c' t hfind
    rw [Ledger.cancelling] at hfind
    by_cases hc : c = c'
    · subst hc
      rw [Table.find?_erase_self] at hfind
      cases hfind
    · rwa [Table.find?_erase_of_ne hc] at hfind
  · intro _ c' t hfind _ hnot
    have hc : c ≠ c' := by
      rintro rfl
      rw [hcancels] at hnot
      exact hnot List.mem_cons_self
    exact (Table.find?_erase_of_ne hc ..).trans hfind

/-- The dispatcher stops. -/
lemma halt (ht : Tended h l) (hd : CallsDistinct h) : Tended (h ++ [.stopped]) l.halted := by
  have hstory : ∀ t, story t (h ++ [.stopped]) = story t h := fun t => story_append_singleton ..
  refine ht.frame hd (fun t => by rw [hstory]) (fun t => by rw [hstory]) (fun _ => rfl) ?_ ?_
    (fun _ _ => .inl) (fun _ => .inl rfl) ?_ ?_ ?_ ?_
  · rintro r w ⟨⟩
  · intro t
    rw [hstory]
    exact ht.present t
  · rintro c t ⟨⟩
  · rintro ⟨⟩
  · intro c
    have hnil : l.halted.cancels = [] := rfl
    rw [Ledger.cancelCount, cancelNumbers_of_none rfl, hnil, List.count_nil, Ledger.cancelCount]
    omega
  · rintro ⟨⟩

/-- The dispatcher finds that nobody listens to the events of a call. -/
lemma unroute (ht : Tended h l) (hd : CallsDistinct h) {t : Ticket} {u : Update}
    (hfind : l.routes.find? u.call = some t) (hlistening : (l.mailbox t).listening = false) :
    Tended (h ++ [.handled (.event u)]) { l with routes := l.routes.erase u.call } := by
  have hstory := story_handled (h := h) (f := .event u) (by rintro r ⟨⟩)
  have hcount : ∀ c, { l with routes := l.routes.erase u.call }.cancelCount c
      (h ++ [Note.handled (.event u)]) = l.cancelCount c h := by
    intro c
    rw [Ledger.cancelCount, cancelNumbers_of_none rfl, Ledger.cancelCount]
  refine ht.frame hd (fun v => (hstory v).1.opened) (fun v => (hstory v).2) id ht.queued ?_
    (fun _ _ => .inl) (fun _ => .inl rfl) ?_ ?_ (fun c => Nat.le_of_eq (hcount c)) fun _ => hcount
  · intro v
    rw [(hstory v).1.number]
    exact ht.present v
  · intro c v hv
    by_cases hc : u.call = c
    · subst hc
      rw [Table.find?_erase_self] at hv
      cases hv
    · rwa [Table.find?_erase_of_ne hc] at hv
  · intro _ c v hv hlist _
    have hc : u.call ≠ c := by
      rintro rfl
      rw [hfind] at hv
      obtain rfl := Option.some.inj hv
      rw [hlistening] at hlist
      cases hlist
    exact (Table.find?_erase_of_ne hc ..).trans hv

/-- The dispatcher handles a reply that nobody has asked for. -/
lemma pass (ht : Tended h l) (hc : Correlated τ h l) (hd : CallsDistinct h) {r : Reply}
    (hrun : l.stopped = false)
    (hnone : ∀ id, r.request = some id → l.pending.find? id = none ∧ id ∉ l.abandoned) :
    Tended (h ++ [.handled (.reply r)]) l := by
  have hstory : ∀ t, story t (h ++ [.handled (.reply r)]) = story t h
      ∨ (story t h).routed = false ∧ (story t h).answer = none
        ∧ story t (h ++ [.handled (.reply r)]) = { story t h with answer := some r } := by
    intro t
    cases hid : r.request with
    | none =>
      left
      rw [story_append_singleton]
      exact if_neg (by rw [hid]; exact fun hand => hand.1 hand.2.1.symm)
    | some id =>
      rw [Correlated.story_reply hid]
      split
      case isTrue hand =>
        -- Nobody waits, and the number is not kept in mind: the request was not for a subscription.
        refine .inr ⟨?_, hand.2, rfl⟩
        obtain ⟨hfind, hnot⟩ := hnone id hid
        rcases hc.tracked hrun t id hand.1 hand.2 with hmem | ⟨-, hgone⟩
        · exact absurd hmem (Table.not_mem_of_find? hfind _)
        · exact eq_false_of_ne_true fun hrouted => hnot (hgone hrouted)
      case isFalse => exact .inl rfl
  have hcount : ∀ c, l.cancelCount c (h ++ [.handled (.reply r)]) = l.cancelCount c h := by
    intro c
    rw [Ledger.cancelCount, cancelNumbers_of_none rfl, Ledger.cancelCount]
  refine ht.frame hd ?_ ?_ id ht.queued ?_ (fun _ _ => .inl) (fun _ => .inl rfl) (fun _ _ => id)
    (fun _ _ _ hfind _ _ => hfind) (fun c => Nat.le_of_eq (hcount c)) fun _ => hcount
  · intro t
    rcases hstory t with h | ⟨hrouted, hanswer, h⟩
    · rw [h]
    · rw [h, Story.opened_of_unanswered hanswer, Story.opened, hrouted]
      rfl
  · intro t
    rcases hstory t with h | ⟨-, -, h⟩ <;> rw [h]
  · intro t
    have hnumber : (story t (h ++ [.handled (.reply r)])).number = (story t h).number := by
      rcases hstory t with h | ⟨-, -, h⟩ <;> rw [h]
    rw [hnumber]
    exact ht.present t

/-! ### All steps -/

/-- A frame that is no reply is handled, and nothing comes of it but an event in a queue. -/
lemma handled (ht : Tended h l) (hd : CallsDistinct h) {f : Frame} (hf : ∀ r, f ≠ .reply r)
    (hcommands : l'.commands = l.commands) (hrole : l'.role = l.role)
    (hstopped : l'.stopped = l.stopped)
    (hlistening : ∀ t, (l'.mailbox t).listening = (l.mailbox t).listening)
    (hroutes : l'.routes = l.routes) (hcancels : l'.cancels = l.cancels) :
    Tended (h ++ [.handled f]) l' :=
  ht.quiet hd (fun t => (story_handled hf t).1) (fun t => (story_handled hf t).2)
    (fun _ => cancelNumbers_of_none rfl) (fun _ _ hw => hcommands ▸ hw) hrole hstopped hlistening
    hroutes hcancels

/-- Every step keeps the calls with those who want them, as long as no two replies open the same
call. -/
lemma step (ht : Tended h l) (hc : Correlated τ h l) (hd : CallsDistinct (h ++ h'))
    (hs : Ledger.Step τ l h' l') : Tended (h ++ h') l' := by
  have hd₀ := hd.of_append
  cases hs with
  | enter x hticket hstage =>
    rw [List.append_nil]
    exact ht.enter hc hd₀ hticket
  | ticket =>
    rw [List.append_nil]
    exact ht.ticket hc hd₀
  | queue now hrun hrole hticket hstage => exact ht.queue hd₀ hticket ⟨_, rfl⟩
  | order hrun hnone =>
    rw [List.append_nil]
    refine ht.stay hd₀ ?_ ht.present (fun _ _ => .inl) (fun _ => .inl rfl) rfl rfl rfl
    intro r w hw
    rcases List.mem_append.mp hw with hw | hw
    · exact ht.queued r w hw
    · rw [← List.mem_singleton.mp hw] at hnone
      cases hnone
  | @fail t x e hrole hreply =>
    have ha := hc.caller t x hrole
    refine ht.return hd₀ ha rfl rfl ?_
    rcases hreply with hstage | hreply
    · have hnone : (l.mailbox t).reply = none := by
        by_contra hanswer
        rw [ha.reply] at hanswer
        exact story_answered t h hanswer (ha.queueing hstage).1
      rw [hnone, Option.bind_none]
    · exact Option.bind_eq_none_iff.mpr hreply
  | @finish t x o hrole hrouted hkeeps =>
    have ha := hc.caller t x hrole
    refine ht.return hd₀ ha hkeeps (ha.listening.trans hrouted) ?_
    rw [hrouted]
    exact Option.bind_eq_none_iff.mpr fun r _ => rfl
  | abandon hrole => exact ht.abandon hd₀ (hc.caller _ _ hrole) rfl
  | «open» topic hrole hrouted hreply hrejection hcall =>
    rw [List.append_nil]
    exact ht.open hc hd₀ topic hrole hrouted hreply hrejection hcall
  | @tell t result hkeeps =>
    have hstory : ∀ u, story u (h ++ [.returned t result]) = story u h := by
      intro u
      rw [story_append_singleton]
      exact Story.note_of_keeps hkeeps
    exact ht.quiet hd₀ (fun u => hstory u ▸ .refl _) (fun u => by rw [hstory])
      (fun c => cancelNumbers_of_none rfl) (fun _ _ => id) rfl rfl (fun _ => rfl) rfl rfl
  | release hrole hstate hnote => exact ht.release hd₀ hrole hnote
  | drop hrole hstate hnote => exact ht.drop hd₀ hrole hstate hnote
  | @read t s u rest hrole hevents =>
    refine ht.quiet hd₀ ?_ ?_ (fun c => cancelNumbers_of_none rfl) (fun _ _ => id) rfl rfl ?_ rfl
      rfl
    · intro v
      rw [story_append_singleton]
      exact Story.same_note rfl
    · intro v
      rw [story_append_singleton, Story.note]
      split <;> rfl
    · grind
  | close hrole hevents hnever =>
    rw [List.append_nil]
    exact ht.close hd₀ hrole hnever
  | sweep hrun =>
    rw [List.append_nil]
    exact ht.stay hd₀ ht.queued ht.present (fun _ _ => .inl) (fun _ => .inl rfl) rfl rfl rfl
  | number hrun hhand hcommands => exact ht.number hc hd₀ hcommands
  | cancel hrun hhand hcancels => exact ht.cancel hd₀ hcancels
  | write hrun hhand =>
    rw [List.append_nil]
    exact ht.stay hd₀ ht.queued ht.present (fun _ _ => .inl) (fun _ => .inl rfl) rfl rfl rfl
  | stop hrun => exact ht.halt hd₀
  | @answer id w r hrun hid hfind hwaiting =>
    obtain ⟨hnumber, hrouted, hanswer, -⟩ := hc.pending id w (Table.mem_of_find? hfind)
    obtain ⟨x, hx⟩ := hc.waiting w.ticket hwaiting
    have ha := hc.caller w.ticket x hx
    have hrouted' := ha.routed (hnumber ▸ Option.some_ne_none id)
    refine ht.answer hd (answered_of_reply hc.apart hid hnumber hanswer) hrouted ha.ending ?_ rfl
    rw [ha.listening, ← hrouted', hrouted]
    exact fun h => h
  | @late id w r hrun hid hfind hgone =>
    obtain ⟨hnumber, hrouted, hanswer, -⟩ := hc.pending id w (Table.mem_of_find? hfind)
    have ha := answered_of_reply hc.apart hid hnumber hanswer
    have hopened := ha.opened
    rw [hrouted] at hopened
    refine ht.stray hd ha (ht.left_of_unanswered hc ha.numbered hanswer hgone) ?_ ?_ rfl rfl rfl rfl
    · cases hcall : Channel.opened? w r with
      | none => exact .inl (Ledger.resolving_routes_of_none hcall)
      | some c => exact .inr ⟨c, hopened.trans hcall,
        Ledger.resolving_routes_of_some (i := id) hcall⟩
    · rw [hopened]
  | @forgotten id r hrun hid hfind hmem =>
    obtain ⟨t, hnumber, hrouted, hanswer, hgone⟩ := hc.abandoned id hmem
    have ha := answered_of_reply hc.apart hid hnumber hanswer
    have hopened := ha.opened
    rw [hrouted] at hopened
    refine ht.stray hd ha (ht.left_of_unanswered hc ha.numbered hanswer hgone) (.inl rfl) ?_ rfl rfl
      rfl rfl
    rw [hopened, Channel.opened?]
    simp [accepted]
  | pass hrun hnone => exact ht.pass hc hd₀ hrun hnone
  | deliver hrun hfind hlistening =>
    exact ht.handled hd₀ (by rintro r ⟨⟩) rfl rfl rfl (by grind) rfl rfl
  | unroute hrun hfind hlistening => exact ht.unroute hd₀ hfind hlistening
  | miss hrun hfind =>
    exact ht.handled hd₀ (by rintro r ⟨⟩) rfl rfl rfl (fun _ => rfl) rfl rfl
  | other hrun hreply hevent =>
    exact ht.handled hd₀ hreply rfl rfl rfl (fun _ => rfl) rfl rfl

end Tended

lemma tended_start : Tended [] .start where
  routed := by rintro c t ⟨⟩
  route := by rintro _ t c ⟨⟩
  listening := by rintro _ t ⟨⟩
  consumer := by rintro t s ⟨⟩
  queued := by rintro r w ⟨⟩
  present := fun t hn => absurd rfl hn
  unwanted := fun c hc => absurd rfl hc
  once := fun c => Nat.zero_le 1
  cancelled := by rintro _ t c ⟨⟩

/-- Calls stay with those who want them, wherever steps lead. -/
theorem tended_of_steps (hs : Ledger.start.Steps τ h l)
    (hlen : (numbered h).length ≤ UInt64.size) (hd : CallsDistinct h) : Tended h l := by
  refine hs.invariant_correlated (P := fun h l => CallsDistinct h → Tended h l)
    (fun _ => tended_start) ?_ hlen hd
  intro h h' l l' _ _ hc ht hstep hd
  exact (ht hd.of_append).step hc hd hstep

end GroundLink.Connection
