import GroundLink.Proofs.Connection.Dispatching
import GroundLink.Proofs.Connection.Viewing

/-!
# The steps of consumers

The ledger of a connection takes a few steps where a consumer reads or lets go.
-/

namespace GroundLink.Connection

open Protocol

variable {ρ : Ticket → Role} {τ : Nat}

/-- A ledger with another role for a ticket. -/
lemma Channel.ledger_update (t : Ticket) (r : Role) (ch : Channel) :
    ch.ledger (Function.update ρ t r) = (ch.ledger ρ).setRole t r := rfl

/-! ### Letting go -/

namespace Subscription

/-- A consumer lets its subscription go. -/
lemma steps_release {t : Ticket} {s : Subscription} {n : Note} (ch : Channel)
    (hrole : ρ t = .consumer s) (ht : s.ticket = t)
    (hn : n = .released t ∨ ∃ e, n = .returned t (.error e)) :
    (ch.ledger ρ).Steps τ [n] ((s.release ch).2.ledger (Function.update ρ t .none))
      ∧ (s.release ch).2.isStopped = ch.isStopped := by
  subst ht
  unfold release
  by_cases hstate : s.state = .subscribed
  · rw [if_neg (not_not_intro hstate)]
    have hrelease := (Ledger.Step.release (τ := τ) (l := ch.ledger ρ) hrole hstate
      hn).steps
    have hledger : (ch.updateMailbox s.ticket Mailbox.closed).ledger ρ
        = (ch.ledger ρ).setMailbox s.ticket (ch.mailbox s.ticket).closed :=
      Channel.ledger_updateMailbox (.inr rfl)
    cases hstop : ch.isStopped with
    | true =>
      have hstop' : (ch.ledger ρ).stopped = true := hstop
      rw [if_pos hstop'] at hrelease
      rw [if_pos (by exact hstop)]
      refine ⟨?_, hstop⟩
      rw [Channel.ledger_update]
      change Ledger.Steps _ _ _ (((ch.updateMailbox s.ticket Mailbox.closed).ledger ρ).setRole _ _)
      rw [hledger]
      exact hrelease
    | false =>
      have hstop' : ¬ (ch.ledger ρ).stopped = true := by
        rw [show (ch.ledger ρ).stopped = false from hstop]
        exact Bool.false_ne_true
      rw [if_neg hstop'] at hrelease
      rw [if_neg (by rw [show (ch.updateMailbox _ _).isStopped = false from hstop]; simp)]
      refine ⟨?_, hstop⟩
      rw [Channel.ledger_update]
      change Ledger.Steps _ _ _ ({ (ch.updateMailbox s.ticket Mailbox.closed).ledger ρ with
        cancels := ch.cancels ++ [s.call] }.setRole _ _)
      rw [hledger]
      exact hrelease
  · rw [if_pos hstate]
    exact ⟨(Ledger.Step.drop hrole hstate hn).steps, rfl⟩

end Subscription

/-! ### Reading -/

lemma Ledger.steps_read {l : Ledger} {t : Ticket} {s : Subscription} (us rest : List Update)
    (hrole : l.role t = .consumer s) (hevents : (l.mailbox t).events = us ++ rest) :
    l.Steps τ (us.map (.yielded t)) (l.setMailbox t { l.mailbox t with events := rest }) := by
  induction us generalizing l with
  | nil =>
    have hsame : l.setMailbox t { l.mailbox t with events := rest } = l := by
      rw [show rest = (l.mailbox t).events from hevents.symm, setMailbox, Function.update_eq_self]
    rw [hsame]
    exact .refl l
  | cons u us ih =>
    have hread := (Step.read (τ := τ) hrole hevents).steps
    have hmore := ih (l := l.setMailbox t { l.mailbox t with events := us ++ rest }) hrole
      (by simp [setMailbox])
    have hboth := hread.trans hmore
    simpa [setMailbox] using hboth

namespace Subscription

lemma takenEvents_self (t : Ticket) (ch : Channel) : takenEvents t ch ch = [] := by
  simp [takenEvents]

/-- A consumer takes the first events out of its queue. -/
lemma steps_keep {t : Ticket} {s : Subscription} {rest : List Update} (ch : Channel)
    (hrole : ρ t = .consumer s) (ht : s.ticket = t) (hrest : rest <:+ (ch.mailbox t).events) :
    (ch.ledger ρ).Steps τ ((takenEvents t ch (s.keep rest ch)).map (.yielded t))
        ((s.keep rest ch).ledger ρ)
      ∧ ((s.keep rest ch).mailbox t).events = rest := by
  subst ht
  obtain ⟨us, hus⟩ := hrest
  have hchange : ch.mailbox s.ticket ≠ .left
      ∨ ({ Mailbox.left with events := rest } : Mailbox) = .left := by
    by_cases hleft : ch.mailbox s.ticket = .left
    · rw [hleft] at hus
      have hnil : rest = [] := (List.append_eq_nil_iff.mp hus).2
      exact .inr (by rw [hnil]; rfl)
    · exact .inl hleft
  have hevents : ((s.keep rest ch).mailbox s.ticket).events = rest := by
    rw [keep, Channel.mailbox_updateMailbox hchange, Function.update_self]
  have htaken : takenEvents s.ticket ch (s.keep rest ch) = us := by
    simp [takenEvents, hevents, ← hus]
  rw [htaken, keep, Channel.ledger_updateMailbox hchange]
  exact ⟨Ledger.steps_read us rest hrole hus.symm, by rw [← keep, hevents]⟩

/-- A consumer finds nothing in its queue. -/
lemma steps_await {α : Type} {t : Ticket} {s : Subscription} (ch : Channel)
    (hrole : ρ t = .consumer s) (ht : s.ticket = t) (hevents : (ch.mailbox t).events = []) :
    (ch.ledger ρ).Steps τ []
        (ch.ledger (Function.update ρ t (.consumer (s.await (α := α) ch).2)))
      ∧ (s.await (α := α) ch).2.ticket = t := by
  subst ht
  unfold await
  split
  · dsimp only
    rw [← hrole, Function.update_eq_self]
    exact ⟨.refl _, rfl⟩
  case isFalse h =>
    have hnever : (ch.ledger ρ).mayDeliver s.ticket = false := eq_false_of_ne_true h
    exact ⟨(Ledger.Step.close hrole hevents hnever).steps, rfl⟩

/-- A consumer of events looks for the next one. -/
lemma steps_poll {t : Ticket} {s : Subscription} (ch : Channel) (hrole : ρ t = .consumer s)
    (ht : s.ticket = t) :
    (ch.ledger ρ).Steps τ ((takenEvents t ch (s.poll ch).2.2).map (.yielded t))
        ((s.poll ch).2.2.ledger (Function.update ρ t (.consumer (s.poll ch).2.1)))
      ∧ (s.poll ch).2.1.ticket = t ∧ (s.poll ch).2.2.isStopped = ch.isStopped := by
  have hsame : Function.update ρ t (.consumer s) = ρ := by rw [← hrole, Function.update_eq_self]
  unfold poll
  split
  · dsimp only
    rw [takenEvents_self, hsame]
    exact ⟨.refl _, ht, rfl⟩
  · split
    case h_1 u rest hevents =>
      dsimp only
      rw [hsame]
      refine ⟨(s.steps_keep ch hrole ht ?_).1, ht, rfl⟩
      rw [← ht, hevents]
      exact List.suffix_cons u rest
    case h_2 hevents =>
      dsimp only
      rw [takenEvents_self]
      rw [ht] at hevents
      obtain ⟨hsteps, ht'⟩ := s.steps_await (τ := τ) (α := Update) ch hrole ht hevents
      exact ⟨hsteps, ht', rfl⟩

end Subscription

/-- A consumer of a stream looks for the next item. -/
lemma Stream.steps_poll {t : Ticket} {s : Stream} (ch : Channel)
    (hrole : ρ t = .consumer s.subscription) (ht : s.subscription.ticket = t) :
    (ch.ledger ρ).Steps τ ((takenEvents t ch (s.poll ch).2.2).map (.yielded t))
        ((s.poll ch).2.2.ledger (Function.update ρ t (.consumer (s.poll ch).2.1.subscription)))
      ∧ (s.poll ch).2.1.subscription.ticket = t ∧ (s.poll ch).2.2.isStopped = ch.isStopped := by
  have hsame : Function.update ρ t (.consumer s.subscription) = ρ := by
    rw [← hrole, Function.update_eq_self]
  have hidle : (ch.ledger ρ).Steps τ ((takenEvents t ch ch).map (.yielded t))
      (ch.ledger (Function.update ρ t (.consumer s.subscription))) := by
    rw [Subscription.takenEvents_self, hsame]
    exact .refl _
  unfold poll
  split
  · exact ⟨hidle, ht, rfl⟩
  · split
    · exact ⟨hidle, ht, rfl⟩
    · obtain ⟨hsuffix, hnil⟩ := s.viewer.next_eq (ch.mailbox s.subscription.ticket).events
      rw [ht] at hsuffix hnil ⊢
      obtain ⟨hkeep, hevents⟩ := s.subscription.steps_keep (τ := τ) ch hrole ht hsuffix
      dsimp only
      split
      case h_1 item hitem =>
        dsimp only
        rw [hsame]
        exact ⟨hkeep, ht, rfl⟩
      case h_2 hitem =>
        dsimp only
        rw [hnil hitem] at hevents hkeep ⊢
        obtain ⟨hawait, ht'⟩ := s.subscription.steps_await (τ := τ) (α := Item)
          (s.subscription.keep [] ch) hrole ht hevents
        have hboth := hkeep.trans hawait
        rw [List.append_nil] at hboth
        exact ⟨hboth, ht', rfl⟩

end GroundLink.Connection
