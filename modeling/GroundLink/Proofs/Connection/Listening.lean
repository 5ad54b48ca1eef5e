import GroundLink.Proofs.Connection.Relaying

/-!
# Listeners of a run

Whoever listens has a listener of its own: consumers of frames, and callers who ask for the server
state. Only its owner moves it, so it hears the frames that are sent, one after another. The end
comes when nobody can send a frame any more, and that includes all who hold the connection: a stop
of the dispatcher alone ends no listener.
-/

namespace GroundLink.Connection

open Model Protocol

variable {h : List Note} {s : System} {t : Ticket} {l : ListenerId} {ch : Channel}

/-! ### Callers who ask for the server state -/

namespace Operation

/-- What a caller finds that looks for the server state, by what it has been told. -/
def stateFound (setting : Setting) (now : Nat) (l : ListenerId) (deadline : Nat) :
    Option ServerState → Poll Operation Outcome
  | some state => .ready (.ok (.state state))
  | none =>
    if deadline ≤ now then .ready (.error (.timeout "state" setting.config.replyTimeout))
    else .pending (.awaitState l deadline)

/-- It finds the first state among the frames that it has not heard. If there is none, it has heard
them all. -/
lemma pollState_eq (setting : Setting) (now : Nat) (l : ListenerId) (deadline : Nat)
    (ch : Channel) :
    (pollState setting now l deadline ch).1
        = stateFound setting now l deadline ((ch.fanout.unheard l).findSome? Frame.state?)
      ∧ ∀ op, (pollState setting now l deadline ch).1 = .pending op →
        op = .awaitState l deadline ∧ (ch.fanout.unheard l).findSome? Frame.state? = none
          ∧ (pollState setting now l deadline ch).2.fanout.unheard l = []
          ∧ (((pollState setting now l deadline ch).2.fanout.listeners.find? l).isSome
            ↔ (ch.fanout.listeners.find? l).isSome) := by
  have hfuel : (ch.fanout.unheard l).length < ch.fanout.recent.length + 1 :=
    Nat.lt_succ_of_le (Fanout.length_unheard_le l ch.fanout)
  obtain ⟨hstate, hheard, hpresent⟩ := Channel.seekState_unheard hfuel
  rw [← hstate]
  unfold pollState
  generalize ch.seekState l (ch.fanout.recent.length + 1) = result at hheard hpresent ⊢
  rcases result with ⟨_ | state, ch'⟩
  · by_cases hdue : deadline ≤ now
    · simp [stateFound, hdue]
    · simp only [stateFound, hdue, if_false]
      refine ⟨trivial, ?_⟩
      rintro op ⟨⟩
      exact ⟨rfl, trivial, hheard rfl, hpresent⟩
  · exact ⟨rfl, by rintro op ⟨⟩⟩

/-- A caller that stands in line to ask for the server state. -/
def InLine (op : Operation) (ch : Channel) : Prop :=
  ∃ t l, op = .askState t l ∧ (ch.enqueue t (.send .state none)).1 = .full

/-- What becomes of a caller who asks for the server state. -/
inductive Seeks (setting : Setting) (now : Nat) (l : ListenerId) (op : Operation) (ch : Channel) :
    Prop
  | inLine : op.InLine ch → (op.poll setting now ch).1 = .pending op →
      (op.poll setting now ch).2.fanout = ch.fanout → Seeks setting now l op ch
  | closed : ch.isStopped = true → (op.poll setting now ch).1 = .ready (.error .closed) →
      Seeks setting now l op ch
  /-- Its request has been queued, and it looks for the state. -/
  | looks {deadline : Nat} {ch' : Channel} :
      op.poll setting now ch = pollState setting now l deadline ch' → ch'.fanout = ch.fanout →
      (∀ d, op = .awaitState l d → deadline = d) → Seeks setting now l op ch

lemma seeks (setting : Setting) (now : Nat) {op : Operation} (hop : op.listener? = some l)
    (ch : Channel) : Seeks setting now l op ch := by
  cases op with
  | askState t l' =>
    obtain rfl := Option.some.inj hop
    rcases hqueue : ch.enqueue t (.send .state none) with ⟨queueing, ch'⟩
    have hcases := Channel.enqueue_cases t (.send .state none) ch
    rw [hqueue] at hcases
    have hfanout : ch'.fanout = ch.fanout := by
      rcases hcases with ⟨-, -, rfl⟩ | ⟨-, line, rfl⟩ <;> rfl
    cases queueing with
    | queued =>
      have hpoll : poll setting now (.askState t l') ch
          = pollState setting now l' (now + setting.config.replyTimeout.nanos) ch' := by
        rw [poll, hqueue]
      exact .looks hpoll hfanout (by rintro d ⟨⟩)
    | full =>
      refine .inLine ⟨t, l', rfl, by rw [hqueue]⟩ ?_ ?_
      all_goals rw [poll, hqueue]
      exact hfanout
    | closed =>
      obtain ⟨⟨⟩, -⟩ | ⟨⟨⟨⟩, -⟩ | ⟨-, hstop⟩, -⟩ := hcases
      refine .closed hstop ?_
      rw [poll, hqueue]
  | awaitState l' deadline =>
    obtain rfl := Option.some.inj hop
    refine .looks rfl rfl ?_
    rintro d ⟨⟩
    rfl
  | _ => cases hop

/-- A caller that goes on keeps its listener. -/
lemma listener_of_poll {setting : Setting} {now : Nat} {op op' : Operation}
    (hpoll : (op.poll setting now ch).1 = .pending op') (hl : op'.listener? = some l) :
    op.listener? = some l := by
  cases onward_of_poll hpoll with
  | inLine | asked | awaitState => exact hl
  | send | subscribe | stream | opened | fetch | close | closed | awaitStop => cases hl

end Operation

/-! ### Who listens -/

namespace System

lemma nextTicket_act (hfits : s.Fits) (a : Act) :
    s.channel.nextTicket ≤ (s.act a).channel.nextTicket :=
  (takes_act a hfits).steps.nextTicket

/-- Whoever listens has a listener of its own. -/
structure Tuned (s : System) : Prop where
  fits : s.Fits
  sound : s.channel.fanout.Sound
  silent : Channel.Silent s.channel.flight
  held : s.connected = true → s.channel.held = true
  listener : ∀ l ∈ s.listeners, l.val < s.channel.fanout.nextListener
  asker : ∀ t p l, s.parties.find? t = some p → p.listener? = some l →
    l.val < s.channel.fanout.nextListener ∧ l ∉ s.listeners ∧ t.val < s.channel.nextTicket
  apart : ∀ t u p q l, s.parties.find? t = some p → s.parties.find? u = some q →
    p.listener? = some l → q.listener? = some l → t = u

lemma tuned_start (setting : Setting) (textRoom : Nat) : (start setting textRoom).Tuned where
  fits := by rintro t p ⟨⟩
  sound := Fanout.sound_start
  silent := Channel.silent_none
  held := fun _ => rfl
  listener := by rintro l ⟨⟩
  asker := by rintro t p l ⟨⟩
  apart := by rintro t u p q l ⟨⟩

/-- Only who asks for the server state begins with a listener. -/
lemma listener_of_beginning {a : Act} {start : Channel → Operation × Channel}
    (hstart : s.beginning? a = some start) (hl : (start s.channel).1.listener? = some l) :
    a = .askState ∧ l = ⟨s.channel.fanout.nextListener⟩ := by
  cases a with
  | send request =>
    cases hstart
    cases hl
  | subscribe request =>
    cases hstart
    unfold Operation.startSubscribe at hl
    split at hl <;> cases hl
  | stream plan =>
    cases hstart
    unfold Operation.startStream at hl
    dsimp only at hl
    split at hl <;> cases hl
  | askState =>
    cases hstart
    cases hl
    exact ⟨rfl, rfl⟩
  | close =>
    rw [beginning?] at hstart
    split at hstart <;> cases hstart
    cases hl
  | _ => cases hstart

/-- A caller that comes to ask for the server state gets a listener. -/
lemma act_askState (hconnected : s.connected = true) :
    (s.act .askState).channel = s.channel.listen.2.newTicket.2
      ∧ (s.act .askState).parties.find? ⟨s.channel.nextTicket⟩
        = some (.calling (.askState ⟨s.channel.nextTicket⟩ ⟨s.channel.fanout.nextListener⟩)) := by
  rw [act, launch, if_pos hconnected]
  exact ⟨rfl, (find_put ..).trans (if_pos rfl)⟩

/-- A party that listens after an act has listened before, or has just come to ask for the server
state. -/
lemma listens_act {a : Act} {p : Party} (hp : (s.act a).parties.find? t = some p)
    (hl : p.listener? = some l) :
    (∃ q, s.parties.find? t = some q ∧ q.listener? = some l)
      ∨ a = .askState ∧ s.connected = true ∧ t = ⟨s.channel.nextTicket⟩
        ∧ l = ⟨s.channel.fanout.nextListener⟩ := by
  cases p with
  | holding | streaming => cases hl
  | calling op =>
    rcases hp ▸ find_act a s t with hsame | hchanges
    · exact .inl ⟨_, hsame.symm, hl⟩
    · cases hchanges with
      | begun hconnected hstart _ heq =>
        obtain ⟨ha, hnew⟩ := listener_of_beginning hstart (by rw [heq]; exact hl)
        exact .inr ⟨ha, hconnected, rfl, hnew⟩
      | looked hparty hafter =>
        exact .inl ⟨_, hparty, Operation.listener_of_poll (Party.after_eq_calling hafter) hl⟩
      | @read _ q _ hparty hidle hread =>
        cases q with
        | calling op => cases hidle
        | holding | streaming => cases hread

lemma listeners_act {a : Act} (hl : l ∈ (s.act a).listeners) : l ∈ s.listeners
    ∨ a = .listen ∧ s.connected = true ∧ l.val = s.channel.fanout.nextListener := by
  have hholders := holders_act a s
  generalize (s.act a).listeners = ls, (s.act a).connected = connected at hl hholders
  cases hholders with
  | same | closed | disconnected => exact .inl hl
  | listened hconnected =>
    rcases List.mem_cons.mp hl with rfl | hl
    · exact .inr ⟨rfl, hconnected, rfl⟩
    · exact .inl hl
  | left => exact .inl (List.mem_filter.mp hl).1

lemma fanout_dispatch (hsilent : Channel.Silent s.channel.flight) :
    (s.act .dispatch).channel.fanout = s.channel.fanout
      ∨ ∃ f, (s.act .dispatch).channel.fanout = s.channel.fanout.publish f := by
  obtain ⟨sent, hfanout, -⟩ := (relays_dispatch hsilent).sent
  cases sent with
  | none => exact .inl hfanout
  | some f => exact .inr ⟨f, hfanout⟩

lemma Tuned.nextListener_act (hs : s.Tuned) (a : Act) :
    s.channel.fanout.nextListener ≤ (s.act a).channel.fanout.nextListener := by
  by_cases ha : a = .dispatch
  · subst ha
    rcases fanout_dispatch hs.silent with heq | ⟨f, heq⟩
    · rw [heq]
    · rw [heq, Fanout.nextListener_publish]
  · exact (adds_act ha s).fanout.next

lemma Tuned.act (hs : s.Tuned) (a : Act) : (s.act a).Tuned := by
  have hnext := hs.nextListener_act a
  have hnew : a = .askState ∨ a = .listen → s.connected = true →
      (s.act a).channel.fanout.nextListener = s.channel.fanout.nextListener + 1 := by
    rintro (rfl | rfl) hconnected
    · rw [(act_askState hconnected).1]
      rfl
    · simp only [System.act, System.listen, hconnected]
      rfl
  exact {
    fits := (takes_act a hs.fits).fits
    sound := by
      by_cases ha : a = .dispatch
      · subst ha
        rcases fanout_dispatch hs.silent with heq | ⟨f, heq⟩
        · exact heq ▸ hs.sound
        · exact heq ▸ Fanout.sound_publish f hs.sound
      · exact (adds_act ha s).fanout.sound hs.sound
    silent := silent_act hs.silent a
    held := by
      intro hconnected
      by_cases ha : a = .dispatch
      · subst ha
        rw [(relays_dispatch hs.silent).held]
        exact hs.held hconnected
      · obtain ⟨hconnected', hheld⟩ := (adds_act ha s).held hconnected
        rw [hheld, hs.held hconnected']
    listener := by
      intro l hl
      rcases listeners_act hl with hl | ⟨ha, hconnected, hl⟩
      · exact (hs.listener l hl).trans_le hnext
      · rw [hnew (.inr ha) hconnected, hl]
        exact Nat.lt_succ_self _
    asker := by
      intro t p l hp hl
      rcases listens_act hp hl with ⟨q, hq, hl⟩ | ⟨ha, hconnected, rfl, rfl⟩
      · obtain ⟨hlt, hnot, ht⟩ := hs.asker t q l hq hl
        refine ⟨hlt.trans_le hnext, fun hmem => ?_, ht.trans_le (nextTicket_act hs.fits a)⟩
        rcases listeners_act hmem with hmem | ⟨-, -, heq⟩
        · exact hnot hmem
        · exact hlt.ne heq
      · refine ⟨by rw [hnew (.inl ha) hconnected]; exact Nat.lt_succ_self _, fun hmem => ?_, ?_⟩
        · rcases listeners_act hmem with hmem | ⟨ha', -, -⟩
          · exact (hs.listener _ hmem).ne rfl
          · cases ha.symm.trans ha'
        · rw [ha, (act_askState hconnected).1]
          exact Nat.lt_succ_self _
    apart := by
      intro t u p q l hp hq hpl hql
      rcases listens_act hp hpl with ⟨p', hp', hpl⟩ | ⟨-, -, ht, hnew⟩
      · rcases listens_act hq hql with ⟨q', hq', hql⟩ | ⟨-, -, -, rfl⟩
        · exact hs.apart t u p' q' l hp' hq' hpl hql
        · exact absurd rfl (hs.asker t p' _ hp' hpl).1.ne
      · rcases listens_act hq hql with ⟨q', hq', hql⟩ | ⟨-, -, hu, -⟩
        · exact absurd (congrArg ListenerId.val hnew) (hs.asker u q' l hq' hql).1.ne
        · exact ht.trans hu.symm }

/-! ### What moves a listener -/

/-- Only its consumer moves a listener of frames. -/
lemma Tuned.moved_listener (hs : s.Tuned) {a : Act} (hl : l ∈ s.listeners)
    (hm : s.moved a = some l) : a = .hear l ∨ a = .leave l := by
  have hnew : some (⟨s.channel.fanout.nextListener⟩ : ListenerId) ≠ some l := by
    rintro ⟨⟩
    exact (hs.listener _ hl).ne rfl
  have hasks : ∀ t, (s.parties.find? t).bind Party.listener? ≠ some l := by
    intro t hm
    obtain ⟨p, hp, hpl⟩ := Option.bind_eq_some_iff.mp hm
    exact (hs.asker t p l hp hpl).2.1 hl
  cases a with
  | askState | listen => exact absurd hm hnew
  | look t | abandon t => exact absurd hm (hasks t)
  | hear l' =>
    simp only [moved] at hm
    split at hm <;> cases hm
    exact .inl rfl
  | leave l' =>
    simp only [moved] at hm
    split at hm <;> cases hm
    exact .inr rfl
  | _ => cases hm

/-- Only the caller itself moves the listener of one who asks for the server state. -/
lemma Tuned.moved_asker (hs : s.Tuned) {a : Act} {p : Party} (hp : s.parties.find? t = some p)
    (hl : p.listener? = some l) (hm : s.moved a = some l) : a = .look t ∨ a = .abandon t := by
  have hnew : some (⟨s.channel.fanout.nextListener⟩ : ListenerId) ≠ some l := by
    rintro ⟨⟩
    exact (hs.asker t p _ hp hl).1.ne rfl
  have hasks : ∀ u, (s.parties.find? u).bind Party.listener? = some l → u = t := by
    intro u hm
    obtain ⟨q, hq, hql⟩ := Option.bind_eq_some_iff.mp hm
    exact hs.apart u t q p l hq hp hql hl
  cases a with
  | askState | listen => exact absurd hm hnew
  | look u => exact .inl (hasks u hm ▸ rfl)
  | abandon u => exact .inr (hasks u hm ▸ rfl)
  | hear l' | leave l' =>
    simp only [moved] at hm
    split at hm
    case isTrue hl' =>
      cases hm
      exact absurd hl' (hs.asker t p _ hp hl).2.1
    case isFalse => cases hm
  | _ => cases hm

lemma after_of_asker {setting : Setting} {now : Nat} {op : Operation} {p : Party}
    (hop : op.listener? = some l) (hp : Party.after (op.poll setting now ch).1 = some p) :
    ∃ op', (op.poll setting now ch).1 = .pending op' ∧ p = .calling op' := by
  cases Operation.seeks setting now hop ch with
  | inLine _ hpending =>
    rw [hpending] at hp
    exact ⟨op, hpending, (Option.some.inj hp).symm⟩
  | closed _ hclosed =>
    rw [hclosed] at hp
    cases hp
  | looks hpoll =>
    rw [hpoll, (Operation.pollState_eq ..).1] at hp ⊢
    unfold Operation.stateFound at hp ⊢
    split at hp
    · cases hp
    · split at hp
      · cases hp
      case isFalse hwait => exact ⟨_, if_neg hwait, (Option.some.inj hp).symm⟩

/-- A caller who asks for the server state and is there after an act has looked, or has been left
alone. -/
lemma Tuned.asker_act (hs : s.Tuned) {a : Act} {op : Operation} {p : Party}
    (hparty : s.parties.find? t = some (.calling op)) (hop : op.listener? = some l)
    (hp : (s.act a).parties.find? t = some p) :
    (∃ op', a = .look t ∧ (op.poll s.setting s.now s.channel).1 = .pending op'
        ∧ p = .calling op' ∧ (s.act a).channel = (op.poll s.setting s.now s.channel).2)
      ∨ p = .calling op ∧ s.moved a ≠ some l := by
  by_cases hlook : a = .look t
  · subst hlook
    obtain ⟨hafter, hchannel⟩ := act_look_of_calling hparty
    obtain ⟨op', hpoll, rfl⟩ := after_of_asker hop (hafter.symm.trans hp)
    exact .inl ⟨op', rfl, hpoll, rfl, hchannel op' hpoll⟩
  · -- Nobody else moves its listener, and nobody else comes by its ticket.
    right
    have hmoved : s.moved a = some l → a = .abandon t := fun hm =>
      (hs.moved_asker hparty hop hm).resolve_left hlook
    rcases hp ▸ find_act a s t with hsame | hchanges
    · obtain rfl := Option.some.inj (hsame.trans hparty)
      refine ⟨rfl, fun hm => ?_⟩
      obtain rfl := hmoved hm
      rw [act_abandon_of_calling hparty] at hp
      cases hp
    · cases hchanges with
      | begun => exact absurd (hs.asker _ _ l hparty hop).2.2 (Nat.lt_irrefl _)
      | looked => exact absurd rfl hlook
      | read hreading hidle =>
        obtain rfl := Option.some.inj (hreading.symm.trans hparty)
        cases hidle

/-- Listeners of frames come with new numbers only. -/
lemma Tuned.listener_of_play (hs : s.Tuned) (hl : l.val < s.channel.fanout.nextListener)
    {bs : List Act} (hl' : l ∈ (s.play bs).listeners) : l ∈ s.listeners := by
  induction bs generalizing s with
  | nil => exact hl'
  | cons b bs ih =>
    have hmem : l ∈ (s.act b).listeners :=
      ih (hs.act b) (hl.trans_le (hs.nextListener_act b)) hl'
    refine (listeners_act hmem).resolve_right ?_
    rintro ⟨-, -, hnew⟩
    exact hl.ne hnew

/-- Parties come with new tickets only. -/
lemma Tuned.party_of_play (hs : s.Tuned) (ht : t.val < s.channel.nextTicket) {bs : List Act}
    {p : Party} (hp : (s.play bs).parties.find? t = some p) :
    ∃ q, s.parties.find? t = some q := by
  induction bs generalizing s with
  | nil => exact ⟨p, hp⟩
  | cons b bs ih =>
    obtain ⟨q, hq⟩ := ih (hs.act b) (ht.trans_le (nextTicket_act hs.fits b)) hp
    exact party_of_find_act ht hq

/-- Who asks for the server state and is there in the end has been there after each act. -/
lemma Tuned.asker_stays (hs : s.Tuned) {p q : Party} (hq : s.parties.find? t = some q)
    (hl : q.listener? = some l) {b : Act} {bs : List Act}
    (hp : ((s.act b).play bs).parties.find? t = some p) :
    ∃ q', (s.act b).parties.find? t = some q' :=
  (hs.act b).party_of_play
    ((hs.asker t q l hq hl).2.2.trans_le (nextTicket_act hs.fits b)) hp

/-! ### After the stop -/

/-- Whether an act is a look of a consumer of frames. -/
def Act.hears (l : ListenerId) : Act → Bool
  | .hear l' => l' = l
  | _ => false

lemma unheard_act_of_stopped {a : Act} (hstop : s.channel.isStopped = true)
    (hm : s.moved a ≠ some l) :
    (s.act a).channel.fanout.unheard l = s.channel.fanout.unheard l := by
  by_cases ha : a = .dispatch
  · rw [ha, act_dispatch_of_stopped hstop]
  · exact (adds_act ha s).fanout.unheard hm

/-- A listener of frames has what it has had, but for the frame that it takes. -/
lemma Tuned.hear_of_stopped (hs : s.Tuned) (hstop : s.channel.isStopped = true)
    (hl : l ∈ s.listeners) {a : Act} (hl' : l ∈ (s.act a).listeners) :
    (s.act a).channel.fanout.unheard l
      = (s.channel.fanout.unheard l).drop (if a.hears l then 1 else 0) := by
  by_cases hm : s.moved a = some l
  · rcases hs.moved_listener hl hm with rfl | rfl
    · have hchannel : (s.act (.hear l)).channel = (s.channel.pollFrame l).2 := by
        rw [System.act, if_pos hl]
      rw [hchannel, (Channel.pollFrame_unheard l s.channel).2,
        (Channel.readFrame_unheard l s.channel).2, (s.channel.fanout.read_eq l).2.1,
        if_pos (by simp [Act.hears]), List.drop_one]
    · rw [System.act, if_pos hl] at hl'
      simp at hl'
  · have hhears : ¬ a.hears l = true := by
      intro hhears
      cases a with
      | hear l' =>
        obtain rfl := of_decide_eq_true hhears
        exact hm (if_pos hl)
      | _ => cases hhears
    rw [unheard_act_of_stopped hstop hm, if_neg hhears, List.drop_zero]

/-- A caller who waits for the server state goes on with what it has been told. -/
lemma Tuned.wait_of_stopped (hs : s.Tuned) (hstop : s.channel.isStopped = true) {deadline : Nat}
    (hparty : s.parties.find? t = some (.calling (.awaitState l deadline))) {a : Act} {p : Party}
    (hp : (s.act a).parties.find? t = some p) :
    p = .calling (.awaitState l deadline)
      ∧ ((s.act a).channel.fanout.unheard l).findSome? Frame.state?
        = (s.channel.fanout.unheard l).findSome? Frame.state? := by
  rcases hs.asker_act hparty rfl hp with ⟨op', rfl, hpoll, rfl, hchannel⟩ | ⟨rfl, hm⟩
  · obtain ⟨rfl, hnone, hheard, -⟩ := (Operation.pollState_eq ..).2 op' hpoll
    refine ⟨rfl, ?_⟩
    rw [hchannel, hnone]
    exact congrArg (List.findSome? Frame.state?) hheard
  · exact ⟨rfl, congrArg (List.findSome? Frame.state?) (unheard_act_of_stopped hstop hm)⟩

/-- A listener of frames takes one after another of those that are there for it when the dispatcher
stops. -/
lemma Tuned.unheard_play (hs : s.Tuned) (hstop : s.channel.isStopped = true)
    (hl : l ∈ s.listeners) {bs : List Act} (hl' : l ∈ (s.play bs).listeners) :
    (s.play bs).channel.fanout.unheard l
      = (s.channel.fanout.unheard l).drop (bs.countP (Act.hears l)) := by
  induction bs generalizing s with
  | nil => rfl
  | cons b bs ih =>
    have hmem : l ∈ (s.act b).listeners :=
      (hs.act b).listener_of_play ((hs.listener l hl).trans_le (hs.nextListener_act b)) hl'
    rw [play, ih (hs.act b) (isStopped_act hstop b) hmem hl',
      hs.hear_of_stopped hstop hl hmem, List.drop_drop, List.countP_cons, Nat.add_comm]

/-- Who waits for the server state goes on with what it has been told when the dispatcher stops. -/
lemma Tuned.wait_play (hs : s.Tuned) (hstop : s.channel.isStopped = true) {deadline : Nat}
    (hparty : s.parties.find? t = some (.calling (.awaitState l deadline)))
    {bs : List Act} {p : Party} (hp : (s.play bs).parties.find? t = some p) :
    p = .calling (.awaitState l deadline)
      ∧ ((s.play bs).channel.fanout.unheard l).findSome? Frame.state?
        = (s.channel.fanout.unheard l).findSome? Frame.state? := by
  induction bs generalizing s with
  | nil => exact ⟨Option.some.inj (hp.symm.trans hparty), rfl⟩
  | cons b bs ih =>
    obtain ⟨q, hq⟩ := hs.asker_stays hparty rfl hp
    obtain ⟨rfl, htold⟩ := hs.wait_of_stopped hstop hparty hq
    obtain ⟨hsame, htold'⟩ := ih (hs.act b) (isStopped_act hstop b) hq hp
    exact ⟨hsame, htold'.trans htold⟩

/-- What comes of those who listen from the moment on when the dispatcher has stopped. -/
structure Lingers (s : System) (bs : List Act) (s' : System) : Prop where
  /-- Whoever holds the connection might still send a frame. -/
  held : s'.connected = true → s'.channel.held = true
  /-- Looking `k` times brings the first `k` of the frames that are there for a listener. Then it
  waits as long as the connection is held, and finds the end thereafter. -/
  listener : ∀ l ∈ s.listeners, l ∈ s'.listeners →
    (s'.channel.pollFrame l).1
      = .next (s.channel.fanout.unheard l)[bs.countP (Act.hears l)]? s'.channel.held
  /-- A caller whose request has not been queued finds the connection closed, and so does one who
  comes later. -/
  queueing : ∀ u l,
    ((Operation.askState u l).poll s'.setting s'.now s'.channel).1 = .ready (.error .closed)
  /-- A caller whose request has been queued gets the server state that it has been sent, or waits
  until its time is up. -/
  waiting : ∀ t l deadline, s.parties.find? t = some (.calling (.awaitState l deadline)) →
    ∀ p, s'.parties.find? t = some p →
      p = .calling (.awaitState l deadline)
        ∧ ((Operation.awaitState l deadline).poll s'.setting s'.now s'.channel).1
          = Operation.stateFound s'.setting s'.now l deadline
            ((s.channel.fanout.unheard l).findSome? Frame.state?)

end System

/-! ### Runs -/

section

variable {setting : Setting} {textRoom : Nat}

lemma Run.tuned (hrun : Run setting textRoom h s) : s.Tuned := by
  induction hrun with
  | start => exact System.tuned_start setting textRoom
  | act a _ ih => exact ih.act a

/-- In every run, once the dispatcher has stopped, listeners get the frames that are there for them,
but no end while the connection is held. Whoever waits for the server state then waits until its
time is up. -/
theorem Run.listeners_linger (hrun : Run setting textRoom h s)
    (hstop : s.channel.isStopped = true) (bs : List System.Act) : s.Lingers bs (s.play bs) where
  held := (hrun.play bs).tuned.held
  listener := by
    intro l hl hl'
    have hmay : (s.play bs).channel.mayPublish = (s.play bs).channel.held := by
      simp [Channel.mayPublish, System.isStopped_play hstop bs]
    rw [(Channel.pollFrame_unheard l _).1, hrun.tuned.unheard_play hstop hl hl', List.head?_drop,
      hmay]
  queueing := by
    intro u l
    simp [Operation.poll, Channel.enqueue, System.isStopped_play hstop bs]
  waiting := by
    intro t l deadline hparty p hp
    obtain ⟨rfl, htold⟩ := hrun.tuned.wait_play hstop hparty hp
    refine ⟨rfl, ?_⟩
    rw [← htold]
    exact (Operation.pollState_eq ..).1

end

/-! ### Listeners that are left behind -/

namespace Party

/-- The listener and the time of a party that waits for the server state. -/
def waiting? : Party → Option (ListenerId × Nat)
  | .calling (.awaitState l deadline) => some (l, deadline)
  | _ => none

lemma eq_of_waiting {p : Option Party} {deadline : Nat}
    (hp : p.bind waiting? = some (l, deadline)) :
    p = some (.calling (.awaitState l deadline)) := by
  cases p with
  | none => cases hp
  | some p => cases p with
    | calling op =>
      cases op <;> cases hp
      rfl
    | _ => cases hp

end Party

namespace System

/-- Somebody listens, somebody else asks for the server state, and both are sent an event. Then the
server hangs up. -/
def listening : List Act :=
  [.listen, .askState, .look ⟨0⟩, .dispatch, .push (eventText 5 0), .hangUp, .dispatch, .dispatch]

/-- The listener takes the event. -/
def heardOut : System := plain.play (listening ++ [.hear ⟨0⟩])

end System

theorem Run.listeners_linger_hungUp :
    (System.plain.play System.listening).channel.isStopped = true
      ∧ ((System.plain.play System.listening).channel.fanout.unheard ⟨0⟩).length = 1
      ∧ ((System.plain.play System.listening).channel.fanout.unheard ⟨1⟩).length = 1
      ∧ (System.plain.play System.listening).Lingers [.hear ⟨0⟩]
        ((System.plain.play System.listening).play [.hear ⟨0⟩]) := by
  have hstop : (System.plain.play System.listening).channel.isStopped = true := by decide +kernel
  exact ⟨hstop, by decide +kernel, by decide +kernel,
    Run.listeners_linger (Run.plain System.listening) hstop [.hear ⟨0⟩]⟩

/-- The listener has no end, although it has taken all that has been there for it, and the caller
never finds the connection closed. -/
theorem System.pending_when_stopped :
    heardOut.channel.isStopped = true ∧ heardOut.connected = true
      ∧ (⟨0⟩ ∈ heardOut.listeners ∧ heardOut.channel.fanout.unheard ⟨0⟩ = []
        ∧ (heardOut.channel.pollFrame ⟨0⟩).1 = .pending)
      ∧ heardOut.parties.find? ⟨0⟩ = some (.calling (.awaitState ⟨1⟩ 30000000000))
      ∧ ∀ now, ((Operation.awaitState ⟨1⟩ 30000000000).poll heardOut.setting now
          heardOut.channel).1 ≠ .ready (.error .closed) := by
  have hnil : heardOut.channel.fanout.unheard ⟨0⟩ = [] :=
    List.isEmpty_iff.mp (by decide +kernel)
  refine ⟨by decide +kernel, by decide +kernel, ⟨by decide +kernel, hnil, ?_⟩,
    Party.eq_of_waiting (by decide +kernel), fun now => ?_⟩
  · have hmay : heardOut.channel.mayPublish = true := by decide +kernel
    rw [(Channel.pollFrame_unheard ..).1, hnil, hmay]
    rfl
  · have htold : (heardOut.channel.fanout.unheard ⟨1⟩).findSome? Frame.state? = none :=
      Option.isNone_iff_eq_none.mp (by decide +kernel)
    rw [Operation.poll, (Operation.pollState_eq ..).1, htold, Operation.stateFound]
    split <;> rintro ⟨⟩

end GroundLink.Connection
