import GroundLink.Proofs.Connection.Calls

/-!
# Events and queues

What a consumer has read, and what is in its queue, are the events of its call that have arrived:
those that are handled from the reply that opens the call until the consumer leaves.
-/

namespace GroundLink.Connection

open Protocol

variable {τ : Nat} {h h' : List Note} {l l' : Ledger} {t : Ticket}

/-! ### The events of a call -/

/-- An event of a call. -/
def Note.eventOf? (c : CallId) : Note → Option Update
  | .handled (.event u) => if u.call = c then some u else none
  | _ => none

/-- Whether an event comes or is taken with a note. -/
def Note.moves : Note → Bool
  | .handled (.event _) | .yielded .. => true
  | _ => false

/-- The events of a call that are handled. -/
def eventsOf (c : CallId) (h : List Note) : List Update := h.filterMap (Note.eventOf? c)

namespace Story

variable {s : Story} {n : Note}

lemma read_note (hn : ∀ u, n ≠ .yielded t u) : (s.note t n).read = s.read := by
  fun_cases note t n s <;> grind

lemma arrived_note (hn : ∀ u, n ≠ .handled (.event u)) : (s.note t n).arrived = s.arrived := by
  fun_cases note t n s <;> grind

lemma arrived_note_of_ending (hs : s.ending ≠ none) : (s.note t n).arrived = s.arrived := by
  fun_cases note t n s <;> grind

/-- Who has left stays away. -/
lemma ending_note_ne (hs : s.ending ≠ none) : (s.note t n).ending ≠ none := by
  fun_cases note t n s <;> grind

lemma arrived_note_of_opened {c : CallId} (hc : s.opened = some c) (hs : s.ending = none) :
    (s.note t n).arrived = s.arrived ++ (n.eventOf? c).toList := by
  fun_cases note t n s <;> grind [Note.eventOf?]

lemma arrived_note_of_unopened (hs : s.opened = none) : (s.note t n).arrived = s.arrived := by
  fun_cases note t n s <;> grind

lemma arrived_prefix_note (s : Story) (t : Ticket) (n : Note) :
    s.arrived <+: (s.note t n).arrived := by
  fun_cases note t n s <;> grind

/-- Only a reply answers a request. -/
lemma answer_cases : (s.note t n).answer = s.answer
    ∨ ∃ r, n = .handled (.reply r) ∧ s.answer = none ∧ (s.note t n).answer = some r := by
  fun_cases note t n s <;> grind

/-- Only a reply opens a call. -/
lemma opens {c : CallId} (hanswered : s.answer ≠ none → s.number ≠ none) (hs : s.opened = none)
    (hc : (s.note t n).opened = some c) :
    ∃ r, n = .handled (.reply r) ∧ s.answer = none ∧ (s.note t n).answer = some r
      ∧ r.rejection = none ∧ r.call = some c := by
  rcases answer_cases (s := s) (t := t) (n := n) with hsame | ⟨r, hn, hnone, hr⟩
  · cases hanswer : s.answer with
    | none =>
      rw [opened_of_unanswered (hsame.trans hanswer)] at hc
      cases hc
    | some r =>
      have hrouted := routed_note (t := t) (n := n) (hanswered (by simp [hanswer]))
      rw [opened, hsame, hrouted] at hc
      cases hs.symm.trans hc
  · have hall : (s.note t n).routed = true ∧ r.rejection = none ∧ r.call = some c := by
      simpa [opened, hr, and_assoc] using hc
    exact ⟨r, hn, hnone, hr, hall.2⟩

end Story

/-- Who has left stays away. -/
lemma story_ending_append (he : (story t h).ending ≠ none) :
    (story t (h ++ h')).ending ≠ none := by
  induction h' using List.reverseRecOn with
  | nil => rwa [List.append_nil]
  | append_singleton h' n ih =>
    rw [← List.append_assoc, story_append_singleton]
    exact Story.ending_note_ne ih

/-- Nothing arrives any more for those who have left. -/
theorem story_arrived_of_ending (he : (story t h).ending ≠ none) :
    (story t (h ++ h')).arrived = (story t h).arrived := by
  induction h' using List.reverseRecOn with
  | nil => rw [List.append_nil]
  | append_singleton h' n ih =>
    rw [← List.append_assoc, story_append_singleton,
      Story.arrived_note_of_ending (story_ending_append he), ih]

lemma story_arrived_of_unopened (hc : (story t h).opened = none) :
    (story t h).arrived = [] := by
  induction h using List.reverseRecOn with
  | nil => rfl
  | append_singleton h n ih =>
    have hbefore : (story t h).opened = none := by
      by_contra hopen
      obtain ⟨c, hopen⟩ := Option.ne_none_iff_exists'.mp hopen
      rw [story_opened_append hopen] at hc
      cases hc
    rw [story_append_singleton, Story.arrived_note_of_unopened hbefore, ih hbefore]

/-- What has arrived for a call are its events since the reply that has opened it, up to now, or up
to the end of who has left. -/
theorem story_opening {c : CallId} (hc : (story t h).opened = some c) :
    ∃ before r after, h = before ++ .handled (.reply r) :: after
      ∧ (story t before).answer = none ∧ (story t h).answer = some r
      ∧ r.rejection = none ∧ r.call = some c ∧ (story t h).arrived <+: eventsOf c after
      ∧ ((story t h).ending = none → (story t h).arrived = eventsOf c after) := by
  induction h using List.reverseRecOn with
  | nil => cases hc
  | append_singleton h n ih =>
    rw [story_append_singleton] at hc ⊢
    cases hopen : (story t h).opened with
    | none =>
      obtain ⟨r, rfl, hnone, hanswer, hrejection, hcall⟩ :=
        Story.opens (story_answered t h) hopen hc
      have harrived : ((story t h).note t (.handled (.reply r))).arrived = eventsOf c [] := by
        rw [Story.arrived_note_of_unopened hopen, story_arrived_of_unopened hopen]
        rfl
      exact ⟨h, r, [], rfl, hnone, hanswer, hrejection, hcall,
        harrived ▸ List.prefix_rfl, fun _ => harrived⟩
    | some c' =>
      obtain rfl : c' = c :=
        Option.some.inj ((Story.opened_note (story_answered t h) hopen).symm.trans hc)
      obtain ⟨before, r, after, hsplit, hnone, hanswer, hrejection, hcall, hpre, harrived⟩ :=
        ih hopen
      have hmore : eventsOf c' (after ++ [n]) = eventsOf c' after ++ (n.eventOf? c').toList := by
        rw [eventsOf, eventsOf, List.filterMap_append]
        congr 1
      refine ⟨before, r, after ++ [n], ?_, hnone, Story.answer_note hanswer, hrejection, hcall, ?_⟩
      · rw [hsplit, List.append_assoc, List.cons_append]
      · by_cases hbefore : (story t h).ending = none
        · rw [Story.arrived_note_of_opened hopen hbefore, harrived hbefore, hmore]
          exact ⟨List.prefix_rfl, fun _ => rfl⟩
        · rw [Story.arrived_note_of_ending hbefore, hmore]
          exact ⟨hpre.trans (List.prefix_append ..),
            fun hend => absurd hend (Story.ending_note_ne hbefore)⟩

/-- What has arrived for a call that is open are its events since the reply that has opened it. -/
theorem story_arrived {c : CallId} (hc : (story t h).opened = some c)
    (he : (story t h).ending = none) :
    ∃ before r after, h = before ++ .handled (.reply r) :: after
      ∧ (story t before).answer = none ∧ (story t h).answer = some r
      ∧ r.rejection = none ∧ r.call = some c
      ∧ (story t h).arrived = eventsOf c after := by
  obtain ⟨before, r, after, hsplit, hnone, hanswer, hrejection, hcall, -, harrived⟩ :=
    story_opening hc
  exact ⟨before, r, after, hsplit, hnone, hanswer, hrejection, hcall, harrived he⟩

/-- What has arrived stays. -/
lemma story_arrived_append (t : Ticket) (h h' : List Note) :
    (story t h).arrived <+: (story t (h ++ h')).arrived := by
  induction h' using List.reverseRecOn with
  | nil => simp only [List.append_nil, List.prefix_rfl]
  | append_singleton h' n ih =>
    rw [← List.append_assoc, story_append_singleton]
    exact ih.trans (Story.arrived_prefix_note ..)

/-- Only the consumer itself reads. -/
lemma story_read_append (hn : ∀ u, .yielded t u ∉ h') :
    (story t (h ++ h')).read = (story t h).read := by
  induction h' using List.reverseRecOn with
  | nil => rw [List.append_nil]
  | append_singleton h' n ih =>
    rw [← List.append_assoc, story_append_singleton, Story.read_note, ih]
    · exact fun u hu => hn u (List.mem_append_left _ hu)
    · rintro u rfl
      exact hn u (List.mem_append_right _ (List.mem_singleton_self _))

/-! ### What is kept -/

/-- How the queues in a ledger stand to the stories. -/
structure Delivered (h : List Note) (l : Ledger) : Prop where
  queue : ∀ t, l.role t ≠ .none →
    (story t h).read ++ (l.mailbox t).events = (story t h).arrived
  before : ∀ t, (story t h).read <+: (story t h).arrived
  closed : ∀ t s, l.role t = .consumer s → s.state ≠ .subscribed → (l.mailbox t).events = []

namespace Delivered

/-- A step with which nothing arrives, and nothing is read. -/
lemma frame (hq : Delivered h l)
    (hread : ∀ t, (story t (h ++ h')).read = (story t h).read)
    (harrived : ∀ t, (story t (h ++ h')).arrived = (story t h).arrived)
    (hqueue : ∀ t, l'.role t ≠ .none →
      l.role t ≠ .none ∧ (l'.mailbox t).events = (l.mailbox t).events
        ∨ story t h = .blank ∧ (l'.mailbox t).events = [])
    (hclosed : ∀ t s, l'.role t = .consumer s → s.state ≠ .subscribed →
      l.role t = .consumer s ∨ (l'.mailbox t).events = []) : Delivered (h ++ h') l' where
  queue := by
    intro t ht
    rw [hread, harrived]
    rcases hqueue t ht with ⟨hrole, hevents⟩ | ⟨hblank, hevents⟩
    · rw [hevents]
      exact hq.queue t hrole
    · rw [hblank, hevents]
      rfl
  before := by
    intro t
    rw [hread, harrived]
    exact hq.before t
  closed := by
    intro t s hrole hstate
    rcases hclosed t s hrole hstate with hold | hevents
    · rcases hqueue t (by simp [hrole]) with ⟨-, hsame⟩ | ⟨-, hnil⟩
      · rw [hsame]
        exact hq.closed t s hold hstate
      · exact hnil
    · exact hevents

/-- A consumer takes an event. -/
lemma read (hq : Delivered h l) {s : Subscription} {u : Update} {rest : List Update}
    (hrole : l.role t = .consumer s) (hevents : (l.mailbox t).events = u :: rest) :
    Delivered (h ++ [.yielded t u]) (l.setMailbox t { l.mailbox t with events := rest }) := by
  have hold := hq.queue t (by simp [hrole])
  rw [hevents] at hold
  have hread : (story t (h ++ [.yielded t u])).read = (story t h).read ++ [u] := by
    simp [Story.note]
  have hsame : ∀ v, v ≠ t → story v (h ++ [.yielded t u]) = story v h := by
    intro v hv
    rw [story_append_singleton]
    exact Story.note_of_party rfl rfl hv
  have harrived : (story t (h ++ [.yielded t u])).arrived = (story t h).arrived := by
    rw [story_append_singleton]
    exact Story.arrived_note (by rintro v ⟨⟩)
  exact {
    queue := by
      intro v hv
      by_cases hvt : v = t
      · subst hvt
        rw [hread, harrived, Ledger.setMailbox_mailbox, if_pos rfl, List.append_assoc]
        exact hold
      · rw [hsame v hvt, Ledger.setMailbox_mailbox, if_neg hvt]
        exact hq.queue v hv
    before := by
      intro v
      by_cases hvt : v = t
      · subst hvt
        rw [hread, harrived, ← hold]
        exact ⟨rest, by simp⟩
      · rw [hsame v hvt]
        exact hq.before v
    closed := by
      intro v s' hv hstate
      have hnil := hq.closed v s' hv hstate
      by_cases hvt : v = t
      · subst hvt
        rw [hevents] at hnil
        cases hnil
      · rwa [Ledger.setMailbox_mailbox, if_neg hvt] }

/-- An event is handled: it arrives where it is put into a queue, and nowhere else. -/
lemma event (hq : Delivered h l) {u : Update} (hrole : l'.role = l.role)
    (hstate : ∀ t s, l.role t = .consumer s → s.state = .subscribed)
    (hevents : ∀ t, l.role t ≠ .none → (l'.mailbox t).events = (l.mailbox t).events
      ++ if (story t h).opened = some u.call ∧ (story t h).ending = none then [u] else []) :
    Delivered (h ++ [.handled (.event u)]) l' := by
  have hread : ∀ t, (story t (h ++ [.handled (.event u)])).read = (story t h).read := by
    intro t
    rw [story_append_singleton]
    exact Story.read_note (by rintro v ⟨⟩)
  have harrived : ∀ t, (story t (h ++ [.handled (.event u)])).arrived = (story t h).arrived
      ++ if (story t h).opened = some u.call ∧ (story t h).ending = none then [u] else [] := by
    intro t
    rw [story_append_singleton, Story.note]
    split <;> simp
  exact {
    queue := by
      intro t ht
      rw [hrole] at ht
      rw [hread, harrived, hevents t ht, ← List.append_assoc, hq.queue t ht]
    before := by
      intro t
      rw [hread, harrived]
      exact (hq.before t).trans (List.prefix_append _ _)
    closed := by
      intro t s ht hclosed
      rw [hrole] at ht
      exact absurd (hstate t s ht) hclosed }

/-- A step without a note moves no event, except that a party comes with an empty queue. -/
lemma unnoted (hq : Delivered h l)
    (hqueue : ∀ t, l'.role t ≠ .none →
      l.role t ≠ .none ∧ (l'.mailbox t).events = (l.mailbox t).events
        ∨ story t h = .blank ∧ (l'.mailbox t).events = [])
    (hclosed : ∀ t s, l'.role t = .consumer s → s.state ≠ .subscribed →
      l.role t = .consumer s ∨ (l'.mailbox t).events = []) : Delivered (h ++ []) l' := by
  refine hq.frame (fun t => ?_) (fun t => ?_) hqueue hclosed
  · rw [List.append_nil]
  · rw [List.append_nil]

/-- A step with a note that is about no event moves none. -/
lemma unmoved (hq : Delivered h l) {n : Note} (hn : n.moves = false)
    (hqueue : ∀ t, l'.role t ≠ .none →
      l.role t ≠ .none ∧ (l'.mailbox t).events = (l.mailbox t).events)
    (hclosed : ∀ t s, l'.role t = .consumer s → l.role t = .consumer s) :
    Delivered (h ++ [n]) l' := by
  refine hq.frame (fun t => ?_) (fun t => ?_) (fun t hrole => .inl (hqueue t hrole))
    fun t s hs _ => .inl (hclosed t s hs)
  · rw [story_append_singleton]
    exact Story.read_note (by rintro u rfl; cases hn)
  · rw [story_append_singleton]
    exact Story.arrived_note (by rintro u rfl; cases hn)

/-- An event that nobody wants arrives nowhere. -/
lemma unwanted (hq : Delivered h l) {u : Update} (hrole : l'.role = l.role)
    (hmailbox : l'.mailbox = l.mailbox)
    (hstate : ∀ t s, l.role t = .consumer s → s.state = .subscribed)
    (hnone : ∀ t, ¬((story t h).opened = some u.call ∧ (story t h).ending = none)) :
    Delivered (h ++ [.handled (.event u)]) l' := by
  refine hq.event hrole hstate fun t _ => ?_
  rw [hmailbox, if_neg (hnone t), List.append_nil]

/-- Every step puts each event where it belongs. -/
lemma step (hq : Delivered h l) (hc : Correlated τ h l) (ht : Tended h l) (hd : CallsDistinct h)
    (hs : Ledger.Step τ l h' l') : Delivered (h ++ h') l' := by
  have hheld : l.stopped = false → ∀ t s, l.role t = .consumer s → s.state = .subscribed := by
    intro hrun t s hs
    refine (ht.consumer t s hs).2.2.resolve_right fun hclosed => ?_
    rw [hrun] at hclosed
    cases hclosed.2
  cases hs with
  | enter x hticket hstage =>
    obtain ⟨hblank, -⟩ := hc.fresh x.ticket (Nat.le_of_eq hticket.symm)
    refine hq.unnoted (fun t hrole => ?_) (by grind)
    by_cases htx : t = x.ticket
    · subst htx
      refine .inr ⟨hblank, ?_⟩
      rw [Ledger.setRole_mailbox, Ledger.setMailbox_mailbox, if_pos rfl]
      rfl
    · grind
  | ticket => exact hq.unnoted (by grind) (by grind)
  | queue now hrun hrole hticket hstage => exact hq.unmoved rfl (by grind) (by grind)
  | order hrun hnone => exact hq.unnoted (by grind) (by grind)
  | fail e hrole hreply => exact hq.unmoved rfl (by grind) (by grind)
  | finish hrole hrouted hkeeps => exact hq.unmoved rfl (by grind) (by grind)
  | abandon hrole => exact hq.unmoved rfl (by grind) (by grind)
  | «open» topic hrole hrouted hreply hrejection hcall =>
    exact hq.unnoted (by grind [Mailbox.answered]) (by grind [Subscription.opened])
  | tell hkeeps => exact hq.unmoved rfl (fun _ hrole => ⟨hrole, rfl⟩) fun _ _ => id
  | @release _ _ n hrole hstate hnote =>
    refine hq.unmoved ?_ (by grind) (by grind)
    rcases hnote with rfl | ⟨e, rfl⟩ <;> rfl
  | @drop _ _ n hrole hstate hnote =>
    refine hq.unmoved ?_ (by grind) (by grind)
    rcases hnote with rfl | ⟨e, rfl⟩ <;> rfl
  | read hrole hevents => exact hq.read hrole hevents
  | close hrole hevents hnever => exact hq.unnoted (by grind) (by grind)
  | sweep hrun => exact hq.unnoted (fun _ hrole => .inl ⟨hrole, rfl⟩) fun _ _ hs _ => .inl hs
  | number hrun hhand hcommands =>
    exact hq.unmoved rfl (fun _ hrole => ⟨hrole, rfl⟩) fun _ _ => id
  | cancel hrun hhand hcancels =>
    exact hq.unmoved rfl (fun _ hrole => ⟨hrole, rfl⟩) fun _ _ => id
  | write hrun hhand => exact hq.unnoted (fun _ hrole => .inl ⟨hrole, rfl⟩) fun _ _ hs _ => .inl hs
  | stop hrun => exact hq.unmoved rfl (fun _ hrole => ⟨hrole, rfl⟩) fun _ _ => id
  | @answer id w r hrun hid hfind hwaiting =>
    refine hq.unmoved rfl (fun t hrole => ⟨hrole, ?_⟩) fun _ _ hs => hs
    rw [Ledger.setMailbox_mailbox]
    split
    case isTrue heq => rw [heq]
    case isFalse => rfl
  | late hrun hid hfind hgone =>
    exact hq.unmoved rfl (fun _ hrole => ⟨hrole, rfl⟩) fun _ _ => id
  | forgotten hrun hid hfind hmem =>
    exact hq.unmoved rfl (fun _ hrole => ⟨hrole, rfl⟩) fun _ _ => id
  | pass hrun hnone => exact hq.unmoved rfl (fun _ hrole => ⟨hrole, rfl⟩) fun _ _ => id
  | @deliver t u hrun hfind hlistening =>
    refine hq.event rfl (hheld hrun) fun v _ => ?_
    -- The route leads to the request that has opened the call, and no other one has opened it.
    have hopen := ht.routed u.call t hfind
    have hend := ht.listening hrun t hlistening
    rw [Ledger.setMailbox_mailbox]
    by_cases hvt : v = t
    · subst hvt
      rw [if_pos rfl, if_pos ⟨hopen, hend⟩]
    · have hother : ¬((story v h).opened = some u.call ∧ (story v h).ending = none) := fun hv =>
        hvt (hd hv.1 hopen)
      rw [if_neg hvt, if_neg hother, List.append_nil]
  | unroute hrun hfind hlistening =>
    refine hq.unwanted rfl rfl (hheld hrun) ?_
    rintro v ⟨hopen, hend⟩
    -- Whoever wants the event has the route, and listens.
    obtain ⟨hv, hlist⟩ := ht.route hrun v _ hopen hend
    obtain rfl := Option.some.inj (hfind.symm.trans hv)
    cases hlistening.symm.trans hlist
  | miss hrun hfind =>
    refine hq.unwanted rfl rfl (hheld hrun) ?_
    rintro v ⟨hopen, hend⟩
    cases hfind.symm.trans (ht.route hrun v _ hopen hend).1
  | @other f hrun hreply hevent =>
    refine hq.unmoved ?_ (fun _ hrole => ⟨hrole, rfl⟩) fun _ _ => id
    cases f with
    | event u => exact absurd rfl (hevent u)
    | _ => rfl

end Delivered

lemma delivered_start : Delivered [] .start where
  queue := fun t ht => absurd rfl ht
  before := fun t => List.prefix_refl _
  closed := by rintro t s ⟨⟩

/-- Events are where they belong, wherever steps lead. -/
theorem delivered_of_steps (hs : Ledger.start.Steps τ h l)
    (hlen : (numbered h).length ≤ UInt64.size) (hd : CallsDistinct h) : Delivered h l := by
  refine hs.invariant_correlated (P := fun h l => CallsDistinct h → Delivered h l)
    (fun _ => delivered_start) ?_ hlen hd
  intro h h' l l' hs hlen hc hq hstep hd
  have hd' := hd.of_append
  exact (hq hd').step hc (tended_of_steps hs hlen hd') hd' hstep

end GroundLink.Connection
