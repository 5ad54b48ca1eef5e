import GroundLink.Proofs.Connection.Consuming

/-!
# The steps of callers

The ledger of a connection takes a few steps where a caller looks after its operation.
-/

namespace GroundLink.Connection

open Protocol

variable {ρ : Ticket → Role} {τ : Nat}

namespace Channel

/-! ### Mailboxes -/

lemma ledger_forsake (t : Ticket) (ch : Channel) :
    (ch.forsake t).ledger ρ = (ch.ledger ρ).setMailbox t (ch.mailbox t).forsaken :=
  ledger_updateMailbox (.inr rfl)

lemma ledger_answered (t : Ticket) (ch : Channel) :
    (ch.updateMailbox t Mailbox.answered).ledger ρ
      = (ch.ledger ρ).setMailbox t (ch.mailbox t).answered :=
  ledger_updateMailbox (.inr rfl)

lemma forsake_answered (t : Ticket) (ch : Channel) :
    ((ch.updateMailbox t Mailbox.answered).forsake t).ledger ρ = (ch.forsake t).ledger ρ := by
  rw [ledger_forsake, ledger_forsake, ledger_answered,
    mailbox_updateMailbox (.inr rfl), Function.update_self]
  simp [Ledger.setMailbox, Mailbox.forsaken, Mailbox.answered]

lemma setRole_ledger_update (t : Ticket) (r r' : Role) (ch : Channel) :
    (ch.ledger (Function.update ρ t r)).setRole t r' = ch.ledger (Function.update ρ t r') := by
  simp [Ledger.setRole, ledger]

lemma opened_of_rejected {w : Waiter} {reply : Reply} (h : reply.rejection ≠ none) :
    opened? w reply = none := by
  cases hr : reply.rejection with
  | none => exact absurd hr h
  | some r => simp [opened?, hr]

lemma opened_of_call_none {w : Waiter} {reply : Reply} (h : reply.call = none) :
    opened? w reply = none := by
  simp [opened?, h]

/-! ### The queue of commands -/

/-- What becomes of a command that is to be queued. -/
lemma enqueue_cases (t : Ticket) (c : Command) (ch : Channel) :
    ((ch.enqueue t c).1 = .queued ∧ ch.isStopped = false
      ∧ (ch.enqueue t c).2 = { ch.leaveLine t with commands := ch.commands ++ [c] })
    ∨ (((ch.enqueue t c).1 = .full ∧ ch.isStopped = false
        ∨ (ch.enqueue t c).1 = .closed ∧ ch.isStopped = true)
      ∧ ∃ line, (ch.enqueue t c).2 = { ch with line }) := by
  unfold enqueue
  split
  case isTrue hstop => exact .inr ⟨.inr ⟨rfl, hstop⟩, _, rfl⟩
  case isFalse hrun =>
    have hrun := eq_false_of_ne_true hrun
    split
    · exact .inl ⟨rfl, hrun, rfl⟩
    · split
      · exact .inr ⟨.inl ⟨rfl, hrun⟩, ch.line, rfl⟩
      · exact .inr ⟨.inl ⟨rfl, hrun⟩, _, rfl⟩

/-- A command without a caller to be answered is queued, or not. -/
lemma steps_order (t : Ticket) {c : Command} (hc : c.ticket? = none) (ch : Channel) :
    (ch.ledger ρ).Steps τ [] ((ch.enqueue t c).2.ledger ρ)
      ∧ (ch.enqueue t c).2.isStopped = ch.isStopped := by
  rcases enqueue_cases t c ch with ⟨_, hrun, heq⟩ | ⟨_, line, heq⟩
  · rw [heq]
    exact ⟨(Ledger.Step.order hrun hc).steps, rfl⟩
  · rw [heq]
    exact ⟨.refl _, rfl⟩

end Channel

/-! ### Exchanges -/

namespace Exchange

/-- What is found of a request that has been queued. -/
lemma await_cases (span : Time.Span) (now deadline : Nat) (x : Exchange) (ch : Channel) :
    x.await span now deadline ch = (.pending { x with stage := .awaiting deadline }, ch)
    ∨ (∃ e, x.await span now deadline ch = (.ready (.error e), ch.forsake x.ticket)
        ∧ ∀ r, (ch.mailbox x.ticket).reply = some r → r.rejection ≠ none)
    ∨ ∃ r, x.await span now deadline ch
          = (.ready (.ok r), ch.updateMailbox x.ticket Mailbox.answered)
        ∧ (ch.mailbox x.ticket).reply = some r ∧ r.rejection = none := by
  unfold await
  cases hreply : (ch.mailbox x.ticket).reply with
  | some reply =>
    cases hrejection : reply.rejection with
    | some r =>
      refine .inr (.inl ⟨.server x.request.typeName r, by simp only [hrejection], ?_⟩)
      rintro r' ⟨⟩
      simp [hrejection]
    | none => exact .inr (.inr ⟨reply, by simp only [hrejection]; rfl, rfl, hrejection⟩)
  | none =>
    dsimp only
    split
    · exact .inr (.inl ⟨_, rfl, by simp⟩)
    · split
      · exact .inr (.inl ⟨_, rfl, by simp⟩)
      · exact .inl rfl

/-- A request is looked after: it goes on, or its caller gives it up with an error, or its reply is
taken. -/
lemma poll_cases (span : Time.Span) (now : Nat) {t : Ticket} {x : Exchange} (ch : Channel)
    (hrole : ρ t = .caller x) (ht : x.ticket = t) :
    ∃ x' : Exchange, ∃ ch' : Channel, x'.ticket = t ∧ x'.routed = x.routed
      ∧ ch'.isStopped = ch.isStopped
      ∧ (ch.ledger ρ).Steps span.nanos (x.queueNotes now ch)
        (ch'.ledger (Function.update ρ t (.caller x')))
      ∧ (x.poll span now ch = (.pending x', ch')
        ∨ (∃ e, x.poll span now ch = (.ready (.error e), ch'.forsake t)
          ∧ (x'.stage = .queueing
            ∨ ∀ r, (ch'.mailbox t).reply = some r → r.rejection ≠ none))
        ∨ ∃ r, x.poll span now ch = (.ready (.ok r), ch'.updateMailbox t Mailbox.answered)
          ∧ (ch'.mailbox t).reply = some r ∧ r.rejection = none) := by
  subst ht
  -- A caller that goes on as it is has its role anew.
  have hsame : Function.update ρ x.ticket (.caller x) = ρ := by
    rw [← hrole, Function.update_eq_self]
  cases hstage : x.stage with
  | awaiting deadline =>
    have hx : { x with stage := .awaiting deadline } = x := by rw [← hstage]
    have hnotes : x.queueNotes now ch = [] := by simp [queueNotes, hstage]
    refine ⟨x, ch, rfl, rfl, rfl, ?_, ?_⟩
    · rw [hnotes, hsame]
      exact .refl _
    · simp only [poll, hstage]
      rcases await_cases span now deadline x ch with h | ⟨e, h, hr⟩ | h
      · rw [hx] at h
        exact .inl h
      · exact .inr (.inl ⟨e, h, .inr hr⟩)
      · exact .inr (.inr h)
  | queueing =>
    simp only [poll, hstage]
    rcases ch.enqueue_cases x.ticket x.command with ⟨hq, hrun, heq⟩ | ⟨hq, line, heq⟩
    · have hnotes : x.queueNotes now ch = [.queued x.ticket now] := by simp [queueNotes, hstage, hq]
      refine ⟨{ x with stage := .awaiting (now + span.nanos) }, (ch.enqueue x.ticket x.command).2,
        rfl, rfl, by rw [heq]; rfl, ?_, ?_⟩
      · rw [hnotes, heq]
        exact (Ledger.Step.queue now hrun hrole rfl hstage).steps
      · generalize ch.enqueue x.ticket x.command = result at hq
        obtain ⟨q, ch'⟩ := result
        obtain rfl : q = .queued := hq
        dsimp only
        rcases await_cases span now (now + span.nanos) x ch' with h | ⟨e, h, hr⟩ | h
        · exact .inl h
        · exact .inr (.inl ⟨e, h, .inr hr⟩)
        · exact .inr (.inr h)
    · have hnot : (ch.enqueue x.ticket x.command).1 ≠ .queued := by
        rcases hq with ⟨hq, -⟩ | ⟨hq, -⟩ <;> simp [hq]
      have hnotes : x.queueNotes now ch = [] := by simp [queueNotes, hnot]
      refine ⟨x, { ch with line }, rfl, rfl, rfl, ?_, ?_⟩
      · rw [hnotes, hsame]
        exact .refl _
      · generalize ch.enqueue x.ticket x.command = result at hnot heq
        obtain ⟨q, ch'⟩ := result
        obtain rfl : ch' = { ch with line } := heq
        cases q with
        | queued => exact absurd rfl hnot
        | full => exact .inl rfl
        | closed => exact .inr (.inl ⟨_, rfl, .inl hstage⟩)

end Exchange

/-! ### Parties -/

/-- What an operation does with its ticket. -/
def Operation.role : Operation → Role
  | .send x | .subscribe _ x | .stream _ _ x => .caller x
  | .fetch _ sub _ => .consumer sub
  | _ => .none

/-- Whether an operation is about its ticket. -/
def Operation.Fits (t : Ticket) : Operation → Prop
  | .send x => x.ticket = t ∧ x.routed = false
  | .subscribe _ x | .stream _ _ x => x.ticket = t ∧ x.routed = true
  | .fetch _ sub _ => sub.ticket = t
  | _ => True

namespace Party

/-- What a party does with its ticket. -/
def role : Party → Role
  | .calling op => op.role
  | .holding s => .consumer s
  | .streaming s => .consumer s.subscription

/-- The role of a ticket that nobody or somebody acts on. -/
def roleOf : Option Party → Role
  | some p => p.role
  | none => .none

/-- Whether a party acts on its own ticket. -/
def Fits (t : Ticket) : Party → Prop
  | .calling op => op.Fits t
  | .holding s => s.ticket = t
  | .streaming s => s.subscription.ticket = t

lemma ticket_of_fits {t : Ticket} {p : Party} {sub : Subscription} (hfit : p.Fits t)
    (hrole : p.role = .consumer sub) : sub.ticket = t := by
  cases p with
  | calling op => cases op with
    | fetch plan s due =>
      obtain rfl : s = sub := by injection hrole
      exact hfit
    | _ => cases hrole
  | holding s =>
    obtain rfl : s = sub := by injection hrole
    exact hfit
  | streaming s =>
    obtain rfl : s.subscription = sub := by injection hrole
    exact hfit

/-- Who acts on a ticket after an operation has been looked after. -/
def after : Poll Operation Outcome → Option Party
  | .pending op => some (.calling op)
  | .ready result => keeping result

end Party

/-! ### Operations -/

namespace Operation

/-- What an operation comes to: the party that it leaves, with the steps and notes up to there. -/
structure Goes (τ : Nat) (ρ : Ticket → Role) (t : Ticket) (ch : Channel) (h : List Note)
    (result : Poll Operation Outcome × Channel) : Prop where
  steps : (ch.ledger ρ).Steps τ
    (h ++ (match result.1 with
      | .ready r => [.returned t r]
      | .pending _ => []) ++ Channel.stopNotes ch result.2)
    (result.2.ledger (Function.update ρ t (Party.roleOf (Party.after result.1))))
  fits : ∀ p, Party.after result.1 = some p → p.Fits t

/-- The dispatcher does not stop where a caller leaves with a result. -/
lemma Goes.ready {t : Ticket} {ch ch' : Channel} {h : List Note}
    {result : Except Client.Error Outcome} (hstop : ch'.isStopped = ch.isStopped)
    (hsteps : (ch.ledger ρ).Steps τ (h ++ [.returned t result])
      (ch'.ledger (Function.update ρ t (Party.roleOf (Party.keeping result)))))
    (hfits : ∀ p, Party.keeping result = some p → p.Fits t) :
    Goes τ ρ t ch h (.ready result, ch') where
  steps := by
    rw [Channel.stopNotes_of_eq hstop, List.append_nil]
    exact hsteps
  fits := hfits

/-- Nor where an operation goes on. -/
lemma Goes.pending {t : Ticket} {ch ch' : Channel} {h : List Note} {op : Operation}
    (hstop : ch'.isStopped = ch.isStopped)
    (hsteps : (ch.ledger ρ).Steps τ h (ch'.ledger (Function.update ρ t op.role)))
    (hfits : op.Fits t) : Goes τ ρ t ch h (.pending op, ch') where
  steps := by
    rw [Channel.stopNotes_of_eq hstop, List.append_nil, List.append_nil]
    exact hsteps
  fits := by
    rintro p ⟨⟩
    exact hfits

section

variable {t : Ticket} {ch ch' : Channel} {h : List Note} {x x' : Exchange} {reply : Reply}

/-- A caller leaves with an error. -/
lemma steps_error (e : Client.Error)
    (hsteps : (ch.ledger ρ).Steps τ h (ch'.ledger (Function.update ρ t (.caller x'))))
    (hreply : x'.stage = .queueing
      ∨ ∀ r, (ch'.mailbox t).reply = some r → Channel.opened? ⟨t, x'.routed⟩ r = none) :
    (ch.ledger ρ).Steps τ (h ++ [.returned t (.error e)])
      ((ch'.forsake t).ledger (Function.update ρ t .none)) := by
  refine hsteps.trans ?_
  have hfail := (Ledger.Step.fail (τ := τ) e
    (l := ch'.ledger (Function.update ρ t (.caller x'))) (Function.update_self ..) hreply).steps
  change Ledger.Steps _ _ _ (Ledger.setRole _ _ (Ledger.setMailbox t (ch'.mailbox t).forsaken _))
    at hfail
  rwa [← Channel.ledger_forsake, Channel.setRole_ledger_update] at hfail

/-- A caller who takes its reply and needs no call has a result. -/
lemma goes_sent (hstop : ch'.isStopped = ch.isStopped)
    (hsteps : (ch.ledger ρ).Steps τ h (ch'.ledger (Function.update ρ t (.caller x'))))
    (hrouted : x'.routed = false) :
    Goes τ ρ t ch h (.ready (.ok (.sent reply.call)), ch'.updateMailbox t .answered) := by
  refine .ready hstop (hsteps.trans ?_) (by rintro p ⟨⟩)
  have hfinish := (Ledger.Step.finish (τ := τ) (o := .sent reply.call)
    (l := ch'.ledger (Function.update ρ t (.caller x'))) (Function.update_self ..) hrouted
    rfl).steps
  change Ledger.Steps _ _ _ (Ledger.setRole _ _ (Ledger.setMailbox t (ch'.mailbox t).answered _))
    at hfinish
  rwa [← Channel.ledger_answered, Channel.setRole_ledger_update] at hfinish

/-- A caller who takes a reply that opens a call becomes its consumer. -/
lemma steps_open {c : CallId} (topic : Topic)
    (hsteps : (ch.ledger ρ).Steps τ h (ch'.ledger (Function.update ρ t (.caller x'))))
    (hrouted : x'.routed = true) (hreply : (ch'.mailbox t).reply = some reply)
    (hrejection : reply.rejection = none) (hcall : reply.call = some c) :
    (ch.ledger ρ).Steps τ h
      ((ch'.updateMailbox t .answered).ledger
        (Function.update ρ t (.consumer (.opened c topic t)))) := by
  rw [← List.append_nil h]
  refine hsteps.trans ?_
  have hopen := (Ledger.Step.open (τ := τ) topic
    (l := ch'.ledger (Function.update ρ t (.caller x'))) (Function.update_self ..) hrouted hreply
    hrejection hcall).steps
  change Ledger.Steps _ _ _ (Ledger.setRole _ _ (Ledger.setMailbox t (ch'.mailbox t).answered _))
    at hopen
  rwa [← Channel.ledger_answered, Channel.setRole_ledger_update] at hopen

/-- A caller whose reply opens no call leaves with an error. -/
lemma goes_missingCall (e : Client.Error) (hstop : ch'.isStopped = ch.isStopped)
    (hsteps : (ch.ledger ρ).Steps τ h (ch'.ledger (Function.update ρ t (.caller x'))))
    (hreply : (ch'.mailbox t).reply = some reply) (hcall : reply.call = none) :
    Goes τ ρ t ch h
      (.ready (.error e), (ch'.updateMailbox t .answered).forsake t) := by
  refine .ready hstop ?_ (by rintro p ⟨⟩)
  rw [Channel.forsake_answered]
  refine steps_error e hsteps (.inr ?_)
  intro r hr
  obtain rfl := Option.some.inj (hreply.symm.trans hr)
  exact Channel.opened_of_call_none hcall

/-- A stream that has its call looks for its history. -/
lemma goes_fetch (s : Setting) (now : Nat) (plan : Plan) {sub : Subscription} (due : Nat)
    (ht : sub.ticket = t) (hstop : ch'.isStopped = ch.isStopped)
    (hsteps : (ch.ledger ρ).Steps τ h (ch'.ledger (Function.update ρ t (.consumer sub)))) :
    Goes τ ρ t ch h (pollFetch s now plan sub due ch') := by
  unfold pollFetch
  split
  · exact .pending hstop hsteps ht
  · split
    · refine .ready hstop (hsteps.trans (Ledger.Step.tell rfl).steps) ?_
      rintro p ⟨⟩
      exact ht
    · rename_i e _
      obtain ⟨hrelease, hstop'⟩ := sub.steps_release (τ := τ)
        (ρ := Function.update ρ t (.consumer sub)) (t := t) ch' (Function.update_self ..) ht
        (.inr ⟨e, rfl⟩)
      rw [Function.update_idem] at hrelease
      exact .ready (hstop'.trans hstop) (hsteps.trans hrelease) (by rintro p ⟨⟩)

end

/-- The notes of a request, and what its caller comes to. -/
lemma goes_poll (s : Setting) (now : Nat) {t : Ticket} {op : Operation} (ch : Channel)
    (hrole : ρ t = op.role) (hfits : op.Fits t) (hrequest : op.isRequest = true) :
    Goes s.config.replyTimeout.nanos ρ t ch ((op.exchange?.map (·.queueNotes now ch)).getD [])
      (op.poll s now ch) := by
  cases op with
  | send x =>
    obtain ⟨ht, hrouted⟩ := hfits
    obtain ⟨x', ch', ht', hrouted', hstop, hsteps, h | ⟨e, h, hr⟩ | ⟨r, h, hr, hrejection⟩⟩ :=
      x.poll_cases s.config.replyTimeout now ch hrole ht
    · simp only [poll, h]
      exact .pending hstop hsteps ⟨ht', hrouted'.trans hrouted⟩
    · simp only [poll, h]
      exact .ready hstop (steps_error e hsteps (hr.imp_right fun hr r h =>
        Channel.opened_of_rejected (hr r h))) (by rintro p ⟨⟩)
    · simp only [poll, h]
      exact goes_sent hstop hsteps (hrouted'.trans hrouted)
  | subscribe topic x =>
    obtain ⟨ht, hrouted⟩ := hfits
    obtain ⟨x', ch', ht', hrouted', hstop, hsteps, h | ⟨e, h, hr⟩ | ⟨r, h, hr, hrejection⟩⟩ :=
      x.poll_cases s.config.replyTimeout now ch hrole ht
    · simp only [poll, h]
      exact .pending hstop hsteps ⟨ht', hrouted'.trans hrouted⟩
    · simp only [poll, h]
      exact .ready hstop (steps_error e hsteps (hr.imp_right fun hr r h =>
        Channel.opened_of_rejected (hr r h))) (by rintro p ⟨⟩)
    · simp only [poll, h, openedBy]
      cases hcall : r.call with
      | none =>
        dsimp only
        rw [ht]
        exact goes_missingCall _ hstop hsteps hr hcall
      | some c =>
        dsimp only
        rw [ht]
        refine .ready hstop (Ledger.Steps.trans (steps_open topic hsteps (hrouted'.trans hrouted) hr
          hrejection hcall) (Ledger.Step.tell rfl).steps) ?_
        rintro p ⟨⟩
        rfl
  | stream plan topic x =>
    obtain ⟨ht, hrouted⟩ := hfits
    obtain ⟨x', ch', ht', hrouted', hstop, hsteps, h | ⟨e, h, hr⟩ | ⟨r, h, hr, hrejection⟩⟩ :=
      x.poll_cases s.config.replyTimeout now ch hrole ht
    · simp only [poll, h]
      exact .pending hstop hsteps ⟨ht', hrouted'.trans hrouted⟩
    · simp only [poll, h]
      exact .ready hstop (steps_error e hsteps (hr.imp_right fun hr r h =>
        Channel.opened_of_rejected (hr r h))) (by rintro p ⟨⟩)
    · simp only [poll, h, openedBy]
      cases hcall : r.call with
      | none =>
        dsimp only
        rw [ht]
        exact goes_missingCall _ hstop hsteps hr hcall
      | some c =>
        dsimp only
        rw [ht]
        exact goes_fetch s now plan _ rfl hstop (steps_open topic hsteps (hrouted'.trans hrouted)
          hr hrejection hcall)
  | fetch plan sub due =>
    refine goes_fetch s now plan due hfits rfl ?_
    rw [show (.consumer sub : Role) = ρ t from hrole.symm, Function.update_eq_self]
    exact .refl _
  | _ => cases hrequest

/-! ### Operations without a request -/

end Operation

namespace Channel

/-- A reading moves listeners and is counted, and nothing else comes of it. -/
lemma readFrame_moves (id : ListenerId) (ch : Channel) :
    ∃ fanout dropped, (ch.readFrame id).2
      = { ch with fanout, traffic := { ch.traffic with dropped } } := by
  unfold readFrame
  dsimp only
  split <;> exact ⟨_, _, rfl⟩

lemma pollFrame_moves (id : ListenerId) (ch : Channel) :
    ∃ fanout dropped, (ch.pollFrame id).2
      = { ch with fanout, traffic := { ch.traffic with dropped } } := by
  have hread := ch.readFrame_moves id
  unfold pollFrame
  generalize ch.readFrame id = result at hread
  obtain ⟨_ | frame, ch'⟩ := result <;> exact hread

lemma seekState_moves (id : ListenerId) (fuel : Nat) (ch : Channel) :
    ∃ fanout dropped, (ch.seekState id fuel).2
      = { ch with fanout, traffic := { ch.traffic with dropped } } := by
  induction fuel generalizing ch with
  | zero => exact ⟨_, _, rfl⟩
  | succ fuel ih =>
    have hread := ch.readFrame_moves id
    unfold seekState
    split
    all_goals
      rename_i heq
      rw [heq] at hread
    · exact hread
    · exact hread
    · obtain ⟨fanout, dropped, rfl⟩ := hread
      exact ih _

end Channel

namespace Operation

/-- What an operation without a request comes to. -/
structure Idles (τ : Nat) (ρ : Ticket → Role) (ch : Channel)
    (result : Poll Operation Outcome × Channel) : Prop where
  steps : (ch.ledger ρ).Steps τ (Channel.stopNotes ch result.2) (result.2.ledger ρ)
  role : Party.roleOf (Party.after result.1) = .none
  fits : ∀ t p, Party.after result.1 = some p → p.Fits t

/-- Other operations leave the ledger alone, or do so but for a stop of the dispatcher. -/
lemma Idles.of_steps {ch ch' : Channel} {result : Poll Operation Outcome}
    (hsteps : (ch.ledger ρ).Steps τ [] (ch'.ledger ρ)) (hstop : ch'.isStopped = ch.isStopped)
    (hresult : ∀ p, Party.after result = some p → p.role = .none ∧ ∀ t, p.Fits t) :
    Idles τ ρ ch (result, ch') where
  steps := by rwa [Channel.stopNotes_of_eq hstop]
  role := by
    cases hafter : Party.after result with
    | none => rfl
    | some p => exact (hresult p hafter).1
  fits := fun t p hp => (hresult p hp).2 t

lemma Idles.trans {ch ch' : Channel} {result : Poll Operation Outcome × Channel}
    (hsteps : (ch.ledger ρ).Steps τ [] (ch'.ledger ρ)) (hstop : ch'.isStopped = ch.isStopped)
    (h : Idles τ ρ ch' result) : Idles τ ρ ch result where
  steps := by
    have := hsteps.trans h.steps
    rwa [Channel.stopNotes, hstop] at this
  role := h.role
  fits := h.fits

lemma idles_pollState (s : Setting) (now : Nat) (id : ListenerId) (deadline : Nat) (ch : Channel) :
    Idles τ ρ ch (pollState s now id deadline ch) := by
  obtain ⟨fanout, dropped, hmoves⟩ := ch.seekState_moves id (ch.fanout.recent.length + 1)
  unfold pollState
  split
  all_goals
    rename_i heq
    obtain rfl := (congrArg Prod.snd heq).symm.trans hmoves
  · exact .of_steps (.refl _) rfl (by rintro p ⟨⟩)
  · split
    · exact .of_steps (.refl _) rfl (by rintro p ⟨⟩)
    · refine .of_steps (.refl _) rfl ?_
      rintro p ⟨⟩
      exact ⟨rfl, fun _ => trivial⟩

lemma idles_pollStop (now deadline : Nat) (ch : Channel) :
    Idles τ ρ ch (pollStop now deadline ch) := by
  unfold pollStop
  split
  · exact .of_steps (.refl _) rfl (by rintro p ⟨⟩)
  case isFalse hrun =>
    split
    · exact ⟨Channel.steps_stop (eq_false_of_ne_true hrun), rfl, by rintro t p ⟨⟩⟩
    · refine .of_steps (.refl _) rfl ?_
      rintro p ⟨⟩
      exact ⟨rfl, fun _ => trivial⟩

lemma idles_poll (s : Setting) (now : Nat) {op : Operation} (ch : Channel)
    (hrequest : op.isRequest = false) : Idles τ ρ ch (op.poll s now ch) := by
  cases op with
  | refused request => exact .of_steps (.refl _) rfl (by rintro p ⟨⟩)
  | askState t listener =>
    obtain ⟨hsteps, hstop⟩ :=
      Channel.steps_order (ρ := ρ) (τ := τ) t (c := .send .state none) rfl ch
    simp only [poll]
    split
    all_goals
      rename_i ch' heq
      rw [heq] at hsteps hstop
    · exact .trans hsteps hstop (idles_pollState ..)
    · refine .of_steps hsteps hstop ?_
      rintro p ⟨⟩
      exact ⟨rfl, fun _ => trivial⟩
    · exact .of_steps hsteps hstop (by rintro p ⟨⟩)
  | awaitState listener deadline => exact idles_pollState ..
  | close t =>
    obtain ⟨hsteps, hstop⟩ :=
      Channel.steps_order (ρ := ρ) (τ := τ) t (c := .close) rfl ch
    simp only [poll]
    split
    all_goals
      rename_i heq
      rw [heq] at hsteps hstop
    · refine .of_steps hsteps hstop ?_
      rintro p ⟨⟩
      exact ⟨rfl, fun _ => trivial⟩
    · exact .trans hsteps hstop (idles_pollStop ..)
  | awaitStop deadline => exact idles_pollStop ..
  | _ => cases hrequest

/-- Nothing is noted of an operation without a request. -/
lemma pollNotes_of_idle (s : Setting) (now : Nat) {op : Operation} (ch : Channel) (t : Ticket)
    (hrequest : op.isRequest = false) : op.pollNotes t s now ch = [] := by
  have hnone : op.exchange? = none := by cases op <;> first | rfl | cases hrequest
  rw [pollNotes, hnone, hrequest]
  cases (op.poll s now ch).1 <;> rfl

/-- The ledger takes steps where an operation is looked after. -/
theorem steps_poll (s : Setting) (now : Nat) {t : Ticket} {op : Operation} (ch : Channel)
    (hrole : ρ t = op.role) (hfits : op.Fits t) :
    (ch.ledger ρ).Steps s.config.replyTimeout.nanos
      (op.pollNotes t s now ch ++ Channel.stopNotes ch (op.poll s now ch).2)
      ((op.poll s now ch).2.ledger
        (Function.update ρ t (Party.roleOf (Party.after (op.poll s now ch).1))))
    ∧ ∀ p, Party.after (op.poll s now ch).1 = some p → p.Fits t := by
  cases hrequest : op.isRequest with
  | true =>
    have hgoes := goes_poll s now ch hrole hfits hrequest
    simp only [pollNotes, hrequest, if_true]
    exact ⟨hgoes.steps, hgoes.fits⟩
  | false =>
    have hidles := idles_poll (ρ := ρ) (τ := s.config.replyTimeout.nanos) s now ch hrequest
    have hnone : ρ t = .none := by
      cases op <;> first | exact hrole | cases hrequest
    rw [pollNotes_of_idle s now ch t hrequest, hidles.role, ← hnone, Function.update_eq_self]
    exact ⟨hidles.steps, hidles.fits t⟩

end Operation

end GroundLink.Connection
